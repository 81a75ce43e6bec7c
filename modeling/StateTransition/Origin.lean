import StateTransition.Dispatch.Info

set_option autoImplicit false

/-! Where a call comes from. -/

namespace StateTransition

inductive Origin (Account : Type) where
  /-- The chain itself. -/
  | root
  | signed (who : Account)
  /-- Nobody: the block's author, or a transaction without a signer. -/
  | nobody
deriving DecidableEq

namespace Origin

variable {Account : Type}

def ofSigner : Option Account → Origin Account
  | some who => .signed who
  | none => .nobody

def signer? : Origin Account → Option Account
  | .signed who => some who
  | _ => none

def isRoot : Origin Account → Bool
  | .root => true
  | _ => false

def isNobody : Origin Account → Bool
  | .nobody => true
  | _ => false

def requireSigned : Origin Account → Except DispatchError Account
  | .signed who => .ok who
  | _ => .error .badOrigin

def requireRoot : Origin Account → Except DispatchError Unit
  | .root => .ok ()
  | _ => .error .badOrigin

def requireNobody : Origin Account → Except DispatchError Unit
  | .nobody => .ok ()
  | _ => .error .badOrigin

def requireSignedOrRoot : Origin Account → Except DispatchError (Option Account)
  | .root => .ok none
  | .signed who => .ok (some who)
  | .nobody => .error .badOrigin

def codec [DecidableEq Account] (account : Codec Account) : Codec (Origin Account) := .tagged
  [.plain 0 .root, .carrying 1 account .signed signer?, .plain 2 .nobody]

end Origin

end StateTransition
