import StateTransition.Dispatch.Info
import StateTransition.Store.Layer

set_option autoImplicit false

/-! How calls are dispatched: in a storage layer of their own, so that a call that fails
leaves nothing behind. -/

namespace StateTransition.Call

/-- Runs what a call does in a layer that is kept if it succeeds. Its failure has nothing to
report but the error. -/
def layered (body : Attempt DispatchError PostInfo) : Action DispatchOutcome :=
  Layer.keepingSuccess .ofError (body.adapt DispatchFailure.ofError).run

end StateTransition.Call
