import StateTransition.Account.References
import StateTransition.Fee.Multiplier
import StateTransition.Report.Chain
import StateTransition.Store.Key

set_option autoImplicit false

/-! Overviews: how two weights compare, how an account stands, and where a block is. -/

namespace StateTransition

/-- The value after a change that may fail, and whether it has changed. -/
def Weight.afterChange (weight : Weight) (changed : Option Weight) : Json :=
  report (changed.isSome, changed.getD weight)

/-- How two weights compare and combine, and how the first combines with a number. -/
def Weight.overview (left right : Weight) (number : UInt64) : List (String × Json) :=
  [("eq", report (decide (left = right))),
   ("is_zero", report left.isZero),
   ("all_gt", report (left.allGreater right)),
   ("all_gte", report (left.allAtLeast right)),
   ("all_lt", report (right.allGreater left)),
   ("all_lte", report (right.allAtLeast left)),
   ("any_gt", report (left.anyGreater right)),
   ("any_gte", report (left.any atLeast right)),
   ("any_lt", report (right.anyGreater left)),
   ("any_lte", report (right.any atLeast left)),
   ("max", report (left.larger right)),
   ("min", report (left.lesser right)),
   ("checked_add", report (left.checkedAdd? right)),
   ("checked_sub", report (left.checkedSub? right)),
   ("checked_accrue", left.afterChange (left.checkedAdd? right)),
   ("checked_reduce", left.afterChange (left.checkedSub? right)),
   ("checked_div_per_component", report (left.quotient? right)),
   ("saturating_add", report (left.saturatingAdd right)),
   ("saturating_sub", report (left.saturatingSub right)),
   ("saturating_accrue", report (left.saturatingAdd right)),
   ("saturating_reduce", report (left.saturatingSub right)),
   ("saturating_mul", report (left.saturatingMul number)),
   ("from_all", report (ofBoth number)),
   ("set_ref_time", report ({ left with refTime := number } : Weight)),
   ("set_proof_size", report ({ left with proofSize := number } : Weight)),
   ("encoded", report (codec.encode left))]

instance : Named KeyHash where
  names :=
    [("identity", .keeping .identity), ("twox64concat", .keeping .twox64),
     ("blake2_128concat", .keeping .blake128), ("blake2_128", .blake128),
     ("blake2_256", .blake256), ("twox128", .twox128), ("twox256", .twox256)]

/-! ### Calls and their outcomes -/

/-- What is known of a call after it was made, and what of it is taken for the weight and the
fee, whether it succeeded or failed. -/
def PostInfo.overview (post : PostInfo) (info : DispatchInfo) : List (String × Json) :=
  let actual := report (post.actualWeight info)
  let pays := report (post.finalPays info)
  [("post", report post), ("unspent", report (post.unspent info)), ("actual", actual),
   ("pays", pays), ("extract", .list [actual, actual]), ("extract_pays", .list [pays, pays])]

def DispatchError.overview (error : DispatchError) (other : Option DispatchError) :
    List (String × Json) :=
  let plain := DispatchFailure.ofError error
  [("text", report error.message), ("stripped", report error.stripped),
   ("eq_stripped", report (error.same error.stripped)),
   ("encoded", report (codec.encode error)), ("with_post", report plain),
   ("with_post_text", report plain.error.message), ("eq_other", report (other.map error.same))]

def Rejection.overview (rejection : Rejection) : List (String × Json) :=
  [("text", report rejection.message), ("exhausted", report rejection.exhausted),
   ("mandatory", report rejection.failedMandatory),
   ("encoded", report (codec.encode rejection)),
   ("validity", report (.error rejection : Validity))]

def Origin.allowed {α : Type} [Report α] : Except DispatchError α → Json
  | .ok value => .single "ok" (report value)
  | .error cause => .single "error" (report cause)

def Origin.overview (origin : Origin UInt64) : List (String × Json) :=
  [("origin", report origin), ("encoded", report ((Origin.codec .word).encode origin)),
   ("as_signed", report origin.signer?), ("is_root", report origin.isRoot),
   ("is_none", report origin.isNobody), ("signed", allowed origin.requireSigned),
   ("root", allowed origin.requireRoot), ("none", allowed origin.requireNobody),
   ("signed_or_root", allowed origin.requireSignedOrRoot)]

/-! ### Digests and versions -/

/-- What an item of a digest is, and what an engine may read from it. -/
def DigestItem.overview (item : DigestItem) (engine : EngineId) : List (String × Json) :=
  [("pre_runtime", report item.preRuntime?), ("consensus", report item.consensus?),
   ("seal", report item.seal?), ("other", report item.other?),
   ("try_u32", report (item.fromEngine? engine (Codec.word : Codec UInt32))),
   ("try_bytes", report (item.fromEngine? engine Codec.bytes))]

/-- A version, and whether it follows on the rules that were the last. -/
def Version.overview (version : Version) (last : LastUpgrade) : List (String × Json) :=
  let upgrades := report (version.upgrades last)
  [("display", report version.describe), ("encoded", report (codec.encode version)),
   ("is_upgrade_from", upgrades), ("was_upgraded", upgrades),
   ("info", report version.remembered),
   ("info_encoded", report (LastUpgrade.codec.encode last))]

/-! ### Accounts and blocks -/

variable {Number : Type} [Word Number]

def AccountInfo.overview (info : AccountInfo Number) (known : Bool) : Json := .object
  [("exists", report known), ("account", report info), ("nonce", report info.nonce),
   ("providers", report info.providers), ("sufficients", report info.sufficients),
   ("consumers", report info.consumers), ("count", report info.referenceCount),
   ("is_provider_required", report (info.consumers != 0)),
   ("can_dec_provider", report info.canLoseProvider),
   ("can_inc_consumer", report info.canGainConsumer)]

namespace Environment

def overview (Number : Type) [Word Number] (store : Store) : List (String × Json) :=
  [("number", report (number store : Number)), ("digest", report (Item.digest.get store)),
   ("weight", report (Item.blockWeight.get store)),
   ("all_len", report (extrinsicsLength store)),
   ("extrinsic_index", report (Item.extrinsicIndex.get store))]

/-- What is known of the blocks and of the rules before. -/
def history (store : Store) : List (String × Json) :=
  [("parent", report (Item.parentHash.get store)), ("phase", report (Item.phase.get store)),
   ("extrinsic_count", report ((Item.extrinsicCount.get store).getD 0)),
   ("last_upgrade", report (Item.lastUpgrade.get store)),
   ("last_version", report (lastSpec store)),
   ("authorized", report (Item.authorizedUpgrade.get store)),
   ("code", report (store.get? Item.codeKey))]

end Environment

end StateTransition
