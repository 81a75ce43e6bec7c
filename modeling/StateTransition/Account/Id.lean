import StateTransition.Codec.Compact

set_option autoImplicit false

/-! Account identifiers of 32 bytes, and the addresses by which accounts are named. -/

namespace StateTransition

abbrev AccountId := Octets 32

namespace AccountId

def display (account : AccountId) : String := "0x" ++ Bytes.hex account.bytes

def describe (account : AccountId) : String :=
  String.ofList ((Bytes.hexDigits account.bytes).take 8) ++ "…"

/-- Reads 64 hexadecimal digits, of either case and with or without a mark before them. -/
def parse? (text : String) : Option AccountId :=
  let digits :=
    match text.toList with
    | '0' :: 'x' :: rest => rest
    | chars => chars
  match Bytes.ofHexDigits? digits with
  | some bytes =>
      if sized : bytes.length = 32 then some { bytes, length_eq := sized } else none
  | none => none

def parseFailure : String := "invalid hex address."

end AccountId

/-- An address of an account. `Index` is the type of short numbers. -/
inductive Address (Account Index : Type) where
  | id (account : Account)
  | index (index : Index)
  | raw (data : Bytes)
  | address32 (data : Octets 32)
  | address20 (data : Octets 20)
deriving DecidableEq

namespace Address

variable {Account Index : Type}

def codec (account : Codec Account) (index : Codec Index) : Codec (Address Account Index) :=
  .tagged
    [.carrying 0 account .id (fun | .id account => some account | _ => none),
     .carrying 1 index .index (fun | .index index => some index | _ => none),
     .carrying 2 .bytes .raw (fun | .raw data => some data | _ => none),
     .carrying 3 (.octets 32) .address32 (fun | .address32 data => some data | _ => none),
     .carrying 4 (.octets 20) .address20 (fun | .address20 data => some data | _ => none)]

def resolve? : Address Account Index → Option Account
  | .id account => some account
  | _ => none

def describeBytes (bytes : Bytes) : String :=
  "[" ++ ", ".intercalate (bytes.map fun byte => toString byte.toNat) ++ "]"

def display (account : Account → String) (index : Index → String) :
    Address Account Index → String
  | .id value => "Id(" ++ account value ++ ")"
  | .index value => "Index(" ++ index value ++ ")"
  | .raw data => "MultiAddress::Raw(" ++ Bytes.hex data ++ ")"
  | .address32 data => "Address32(" ++ describeBytes data.bytes ++ ")"
  | .address20 data => "Address20(" ++ describeBytes data.bytes ++ ")"

/-- The name and the content of the address; bytes are shown as numbers. -/
def describe (account : Account → String) (index : Index → String) :
    Address Account Index → String
  | .id value => "Id(" ++ account value ++ ")"
  | .index value => "Index(" ++ index value ++ ")"
  | .raw data => "Raw(" ++ describeBytes data ++ ")"
  | .address32 data => "Address32(" ++ describeBytes data.bytes ++ ")"
  | .address20 data => "Address20(" ++ describeBytes data.bytes ++ ")"

end Address

end StateTransition
