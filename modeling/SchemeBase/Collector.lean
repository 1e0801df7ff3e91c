import SchemeBase.Apply
import SchemeBase.Library.Basic

/-! # Collectors

Host primitives that answer the list of their arguments, one for each shape of arity, from a
procedure that accepts any call to one that accepts none. The last one bears the name of a built-in
and stays different from it.
-/

namespace SchemeBase.Collector

/-- The collectors, by slot. -/
def all : List HostPrimitive :=
  [("host-list", Arity.atLeast 0), ("host-thunk", .exactly 0), ("host-1-3", .between 1 3),
    ("host-2-2", .between 2 2), ("host-none", .between 3 1),
    ("host-huge", .exactly 0xFFFFFFFFFFFFFFFF), ("not", .exactly 1)].zipIdx.map
      fun ((name, arity), slot) => ⟨slot, name, arity⟩

/-- The collector with a given name. -/
def ofName? (name : String) : Option HostPrimitive :=
  all.find? (·.name == name)

/-- A collector answers its arguments as a new list. -/
def call {σ : Type} (_ : HostPrimitive) (args : List Value) : EvalM σ Value :=
  EvalM.ofStore (Store.newList args)

/-- The bindings of the collectors under their names. -/
def bindings : List Binding :=
  all.map fun host => ⟨host.name, .primitive (.host host)⟩

end SchemeBase.Collector
