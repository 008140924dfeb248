import Racoon2.Iked.IkeSaProposal

/-!
# SA payloads in octets

`isakmp_check_proposal_syntax` and `isakmp_parse_proposal` (the two halves of `ikev2_parse_sa`), the
transforms that `ikev2_get_transforms` reads, and how a transform is written.

* `encodeTransforms`      transforms as they are written;
* `checkProposalSyntax`   the check of the three nested lists;
* `parseSa`               the protocols of each proposal number;
* `parsedSa`              the SA of one proposal.
-/

set_option linter.unusedVariables false

namespace Ikev2
open Bytes

/-! ## writing -/

def encodeAttr : Attr → Bytes
  | .short type value => enc16 (0x8000 + type) ++ enc16 value
  | .long type value => enc16 type ++ enc16 value.length ++ value

def transformMore : UInt8 := 3
def transformLast : UInt8 := 0

/-- `ikev2_transform_header`, with the attributes behind it -/
def encodeTransform (more : UInt8) (s : Selected) : Bytes :=
  [more, 0] ++ enc16 (8 + (s.transform.attrs.flatMap encodeAttr).length)
    ++ [UInt8.ofNat s.type, 0] ++ enc16 s.transform.id ++ s.transform.attrs.flatMap encodeAttr

def encodeTransforms : List Selected → Bytes
  | [] => []
  | [s] => encodeTransform transformLast s
  | s :: ss => encodeTransform transformMore s ++ encodeTransforms ss

/-! ## parsing -/

/-- `ISAKMP_ATTRIBUTE_TOTALLENGTH` -/
def attributeLength (attrib : Bytes) : Nat :=
  if 0x8000 ≤ be16 attrib 0 then 4 else 4 + be16 attrib 2

/-- `isakmp_check_attrib_syntax`; every turn takes the four octets of an attribute -/
def checkAttribSyntax : Nat → Bytes → Bool
  | 0, attrib => attrib.length == 0
  | n+1, attrib =>
    if attrib.length = 0 then true
    else if attrib.length < 4 then false
    else if attrib.length < attributeLength attrib then false
    else checkAttribSyntax n (attrib.drop (attributeLength attrib))

/-- the loop of `isakmp_check_proposal_syntax` over the transforms of one proposal -/
def checkTransforms : Nat → Bytes → Bool
  | 0, _ => false
  | n+1, t =>
    if t.length < 8 then false
    else if be16 t 2 < 8 then false
    else if t.length < be16 t 2 then false
    else if byteAt t 0 != 0 && byteAt t 0 != 3 then false
    else if !checkAttribSyntax (be16 t 2) (slice t 8 (be16 t 2 - 8)) then false
    else if byteAt t 0 = 0 then (t.drop (be16 t 2)).length == 0
    else checkTransforms n (t.drop (be16 t 2))

/-- `ikev2_check_spi_size(...) == 0` -/
def checkSpiSize (ikeSpiSize protocol spiSize : Nat) : Bool :=
  if protocol = proposalIke then spiSize == ikeSpiSize
  else if protocol = 2 || protocol = 3 then spiSize == 4
  else false

/-- the loop of `isakmp_check_proposal_syntax` over the proposals; `last` is the number before -/
def checkProposals (ikeSpiSize : Nat) : Nat → Nat → Bytes → Bool
  | 0, _, p => p.length == 0
  | n+1, last, p =>
    let len := be16 p 2
    let spiSize := (byteAt p 6).toNat
    if p.length = 0 then true
    else if p.length < 8 then false
    else if len < 8 + spiSize then false
    else if p.length < len then false
    else if byteAt p 0 != 0 && byteAt p 0 != 2 then false
    else if byteAt p 0 == 0 && len != p.length then false
    else if (byteAt p 4).toNat < last then false
    else if !checkSpiSize ikeSpiSize (byteAt p 5).toNat spiSize then false
    else if byteAt p 7 = 0 then false
    else if !checkTransforms (len + 1) (slice p (8 + spiSize) (len - 8 - spiSize)) then false
    else checkProposals ikeSpiSize n (byteAt p 4).toNat (p.drop len)

/-- `isakmp_check_proposal_syntax(...) == 0` -/
def checkProposalSyntax (ikeSpiSize : Nat) (payload : Bytes) : Bool :=
  payload.length != 0 && checkProposals ikeSpiSize payload.length 0 payload

def parseAttrs : Nat → Bytes → List Attr
  | 0, _ => []
  | n+1, attrib =>
    if attrib.length = 0 then []
    else
      (if 0x8000 ≤ be16 attrib 0 then Attr.short (be16 attrib 0 - 0x8000) (be16 attrib 2)
        else Attr.long (be16 attrib 0) (slice attrib 4 (be16 attrib 2)))
      :: parseAttrs n (attrib.drop (attributeLength attrib))

/-- the loop of `ikev2_get_transforms`, in the order of the wire -/
def parseTransforms : Nat → Bytes → List Selected
  | 0, _ => []
  | n+1, t =>
    ⟨(byteAt t 4).toNat, ⟨be16 t 6, parseAttrs (be16 t 2) (slice t 8 (be16 t 2 - 8))⟩⟩
      :: if byteAt t 0 = 0 then [] else parseTransforms n (t.drop (be16 t 2))

/-- `typearray` of `ikev2_get_transforms`: the groups by their types -/
def groupTransforms (ts : List Selected) : List Group :=
  (List.range 256).filterMap fun type =>
    match ts.filter (·.type == type) with
    | [] => none
    | s :: ss => some ⟨type, (s :: ss).map Selected.transform⟩

/-- the loop of `isakmp_parse_proposal`: the protocols of each number -/
def parseProposals : Nat → Bytes → (Nat → List Proto) → Option (Nat → List Proto)
  | 0, _, _ => none
  | n+1, p, array =>
    let len := be16 p 2
    let spiSize := (byteAt p 6).toNat
    if p.length < 8 then none
    else if len < 8 + spiSize || p.length < len then none
    else
      let proto : Proto := ⟨(byteAt p 5).toNat, slice p 8 spiSize,
        groupTransforms (parseTransforms (len + 1) (slice p (8 + spiSize) (len - 8 - spiSize)))⟩
      let array' := fun number =>
        if number = (byteAt p 4).toNat then array number ++ [proto] else array number
      if byteAt p 0 = 0 then some array' else parseProposals n (p.drop len) array'

/-- `ikev2_parse_sa`, on the proposals of an SA payload -/
def parseSa (ikeSpiSize : Nat) (payload : Bytes) : Option (Nat → List Proto) :=
  if checkProposalSyntax ikeSpiSize payload then
    parseProposals (payload.length + 1) payload fun _ => []
  else none

/-- the first alternative of each type, as `ikev2_proppair_to_isakmpsa` takes it -/
def heads (groups : List Group) : List Selected :=
  groups.filterMap fun g => g.alternatives.head?.map fun t => ⟨g.type, t⟩

/-- the SA of the proposal with this number in a parsed SA payload -/
def parsedSa (groups : List Nat) (ikeSpiSize : Nat) (payload : Bytes) (number : Nat) :
    Option IsakmpSa :=
  match parseSa ikeSpiSize payload with
  | none => none
  | some array =>
    match array number with
    | [] => none
    | q :: _ => proppairToIsakmpsa groups number (heads q.groups)

end Ikev2
