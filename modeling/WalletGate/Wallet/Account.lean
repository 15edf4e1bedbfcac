import WalletGate.Json.Record
/-!
# Accounts and sites

What a wallet knows of an account, what a site reports about itself, and whether the use of the
legacy page interface by a site has been noted.
-/

namespace WalletGate.Wallet

/-- What the user sees of one account. -/
structure Identity where
  address : String
  name : String
  /-- When the user last selected the account, in milliseconds since 1970. -/
  lastSelected : Option Int64
deriving DecidableEq, Repr

namespace Identity

def fields (x : Identity) : List (String × Json) :=
  [("address", .text x.address), ("name", .text x.name)]
    ++ Json.fieldOf "lastSelected" .int x.lastSelected

structure Draft where
  address : Option String := none
  name : Option String := none
  lastSelected : Option (Option Int64) := none

def layout : Decoder.Layout Draft Identity where
  name := "Identity"
  columns := [
    Decoder.column "address" .text Draft.address fun v d => { d with address := v },
    Decoder.column "name" .text Draft.name fun v d => { d with name := v },
    Decoder.column "lastSelected" (.optional .int64) Draft.lastSelected
      fun v d => { d with lastSelected := some v }]
  start := {}
  finish
    | ⟨none, _, _⟩ => .error "address"
    | ⟨_, none, _⟩ => .error "name"
    | ⟨some address, some name, lastSelected⟩ => .ok ⟨address, name, lastSelected.join⟩

instance : Wire Identity where
  toJson x := .ofFields x.fields
  written x := (Json.object x.fields).written
  decoder := .record layout

end Identity

/-- What a site reports about itself. -/
structure SubjectMetadata where
  origin : String
  name : String
  iconUrl : Option String
deriving DecidableEq, Repr

namespace SubjectMetadata

def fields (x : SubjectMetadata) : List (String × Json) :=
  [("origin", .text x.origin), ("name", .text x.name)] ++ Json.fieldOf "iconUrl" .text x.iconUrl

structure Draft where
  origin : Option String := none
  name : Option String := none
  iconUrl : Option (Option String) := none

def layout : Decoder.Layout Draft SubjectMetadata where
  name := "SubjectMetadata"
  columns := [
    Decoder.column "origin" .text Draft.origin fun v d => { d with origin := v },
    Decoder.column "name" .text Draft.name fun v d => { d with name := v },
    Decoder.column "iconUrl" (.optional .text) Draft.iconUrl
      fun v d => { d with iconUrl := some v }]
  start := {}
  finish
    | ⟨none, _, _⟩ => .error "origin"
    | ⟨_, none, _⟩ => .error "name"
    | ⟨some origin, some name, iconUrl⟩ => .ok ⟨origin, name, iconUrl.join⟩

instance : Wire SubjectMetadata where
  toJson x := .ofFields x.fields
  written x := (Json.object x.fields).written
  decoder := .record layout

end SubjectMetadata

/-- Whether the use of the legacy page interface has been noted for a site. -/
inductive ShimUsage where
  | recorded
  | dismissed
deriving DecidableEq, Repr

namespace ShimUsage

def word : ShimUsage → String
  | recorded => "recorded"
  | dismissed => "dismissed"

instance : Wire ShimUsage where
  toJson x := .text x.word
  written x := (Json.text x.word).written
  decoder := .choice [("recorded", .recorded), ("dismissed", .dismissed)]

end ShimUsage

end WalletGate.Wallet
