import StateTransition.Dispatch.Class
import StateTransition.Dispatch.Error

set_option autoImplicit false

/-! What is known about a call before it runs, and what it reports afterwards. A report can
only lower the weight and the fee that were declared. -/

namespace StateTransition

inductive Pays where
  | yes
  | no
deriving DecidableEq, Inhabited

def Pays.codec : Codec Pays := .enumeration [.yes, .no]

structure DispatchInfo where
  weight : Weight
  kind : DispatchClass
  pays : Pays
deriving DecidableEq

namespace DispatchInfo

/-- A weightless normal call that pays. -/
def none : DispatchInfo := ⟨.zero, .normal, .yes⟩

def codec : Codec DispatchInfo :=
  (Weight.codec.pair (DispatchClass.codec.pair Pays.codec)).via
    (fun parts => ⟨parts.1, parts.2.1, parts.2.2⟩)
    (fun info => (info.weight, info.kind, info.pays))

end DispatchInfo

/-- What a call reports: the weight it used, if less than declared, and whether it pays. -/
structure PostInfo where
  actual : Option Weight
  pays : Pays
deriving DecidableEq

namespace PostInfo

def unchanged : PostInfo := ⟨none, .yes⟩

def actualWeight (post : PostInfo) (info : DispatchInfo) : Weight :=
  match post.actual with
  | some actual => actual.lesser info.weight
  | none => info.weight

def unspent (post : PostInfo) (info : DispatchInfo) : Weight :=
  info.weight.saturatingSub (post.actualWeight info)

/-- A call pays only if both its declaration and its report say so. -/
def finalPays (post : PostInfo) (info : DispatchInfo) : Pays :=
  match info.pays, post.pays with
  | .yes, .yes => .yes
  | _, _ => .no

def codec : Codec PostInfo :=
  ((Codec.option Weight.codec).pair Pays.codec).via (fun parts => ⟨parts.1, parts.2⟩)
    (fun post => (post.actual, post.pays))

end PostInfo

structure DispatchFailure where
  post : PostInfo
  error : DispatchError
deriving DecidableEq

namespace DispatchFailure

def ofError (error : DispatchError) : DispatchFailure := ⟨.unchanged, error⟩

def withWeight (error : DispatchError) (weight : Weight) : DispatchFailure :=
  ⟨⟨some weight, .yes⟩, error⟩

def codec : Codec DispatchFailure :=
  (PostInfo.codec.pair DispatchError.codec).via (fun parts => ⟨parts.1, parts.2⟩)
    (fun failure => (failure.post, failure.error))

end DispatchFailure

abbrev DispatchOutcome := Except DispatchFailure PostInfo

namespace DispatchOutcome

def codec : Codec DispatchOutcome := .result DispatchFailure.codec PostInfo.codec

def post : DispatchOutcome → PostInfo
  | .ok post => post
  | .error failure => failure.post

def plain : DispatchOutcome → Except DispatchError Unit
  | .ok _ => .ok ()
  | .error failure => .error failure.error

end DispatchOutcome

end StateTransition
