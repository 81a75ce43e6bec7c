import StateTransition.Weight

set_option autoImplicit false

/-! The classes of calls, values kept per class, and the weight a block has used in each
class. -/

namespace StateTransition

inductive DispatchClass where
  | normal
  | operational
  | mandatory
deriving DecidableEq, Inhabited

namespace DispatchClass

def all : List DispatchClass := [.normal, .operational, .mandatory]

def nonMandatory : List DispatchClass := [.normal, .operational]

def codec : Codec DispatchClass := .enumeration all

def describe : DispatchClass → String
  | .normal => "Normal"
  | .operational => "Operational"
  | .mandatory => "Mandatory"

end DispatchClass

structure PerClass (α : Type) where
  normal : α
  operational : α
  mandatory : α
deriving DecidableEq

namespace PerClass

variable {α : Type}

def ofFunction (value : DispatchClass → α) : PerClass α where
  normal := value .normal
  operational := value .operational
  mandatory := value .mandatory

def get (values : PerClass α) : DispatchClass → α
  | .normal => values.normal
  | .operational => values.operational
  | .mandatory => values.mandatory

def set (values : PerClass α) (kind : DispatchClass) (value : α) : PerClass α :=
  match kind with
  | .normal => { values with normal := value }
  | .operational => { values with operational := value }
  | .mandatory => { values with mandatory := value }

def setAll (values : PerClass α) (classes : List DispatchClass) (value : α) : PerClass α :=
  classes.foldl (fun values kind => values.set kind value) values

def modify (values : PerClass α) (kind : DispatchClass) (change : α → α) : PerClass α :=
  values.set kind (change (values.get kind))

def codec (value : Codec α) : Codec (PerClass α) :=
  (value.pair (value.pair value)).via (fun parts => ⟨parts.1, parts.2.1, parts.2.2⟩)
    (fun values => (values.normal, values.operational, values.mandatory))

@[simp] theorem get_set_same (values : PerClass α) (kind : DispatchClass) (value : α) :
    (values.set kind value).get kind = value := by
  cases kind <;> rfl

theorem get_set_other (values : PerClass α) {changed other : DispatchClass}
    (different : other ≠ changed) (value : α) :
    (values.set changed value).get other = values.get other := by
  cases changed <;> cases other <;> first | rfl | exact absurd rfl different

end PerClass

abbrev ConsumedWeight := PerClass Weight

namespace ConsumedWeight

def zero : ConsumedWeight := .ofFunction fun _ => .zero

def total (consumed : ConsumedWeight) : Weight :=
  ((Weight.zero.saturatingAdd consumed.normal).saturatingAdd consumed.operational).saturatingAdd
    consumed.mandatory

/-- Adds to a class; what does not fit is lost. -/
def add (consumed : ConsumedWeight) (weight : Weight) (kind : DispatchClass) : ConsumedWeight :=
  consumed.modify kind (·.saturatingAdd weight)

def reduce (consumed : ConsumedWeight) (weight : Weight) (kind : DispatchClass) :
    ConsumedWeight :=
  consumed.modify kind (·.saturatingSub weight)

def checkedAdd? (consumed : ConsumedWeight) (weight : Weight) (kind : DispatchClass) :
    Option ConsumedWeight :=
  ((consumed.get kind).checkedAdd? weight).map (consumed.set kind)

def codec : Codec ConsumedWeight := PerClass.codec Weight.codec

end ConsumedWeight

end StateTransition
