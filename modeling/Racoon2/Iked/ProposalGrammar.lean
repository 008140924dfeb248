import Racoon2.Iked.ProposalParse

/-!
# The grammar of an SA payload

`isakmp_check_proposal_syntax`, `isakmp_parse_proposal` and `ikev2_get_transforms` against the
substructures of an SA payload: proposals, their transforms and the attributes of these, each with
its length, and with a mark on all but the last.

* `wireProposals`         proposals with all their fields, as octets;
* `attrs_of_check`        the attributes fill a transform;
* `transforms_of_check`   the transforms fill a proposal;
* `proposals_iff`         the proposals fill the payload;
* `saSpans`               where the parser looks: it does not know the end of a proposal;
* `proposal_grammar`      what is accepted, and that nothing outside of it is read.

The number of transforms in a proposal is not compared with its transforms.
-/

set_option linter.unusedVariables false

namespace Ikev2
open Bytes

/-! ## the grammar -/

def proposalMore : UInt8 := 2

def attrOctets (s : Selected) : Bytes := s.transform.attrs.flatMap encodeAttr

/-- an attribute that fits its fields -/
def Attr.Wf : Attr → Prop
  | .short type value => type < 0x8000 ∧ value < 65536
  | .long type value => type < 0x8000 ∧ value.length < 65536

/-- a transform with its reserved octets -/
structure WireTransform where
  reserved1 : UInt8
  reserved2 : UInt8
  sel : Selected

/-- the fields fit, and so does the length of the whole -/
structure WireTransform.Wf (w : WireTransform) : Prop where
  type : w.sel.type < 256
  id : w.sel.transform.id < 65536
  attrs : ∀ a ∈ w.sel.transform.attrs, a.Wf
  size : 8 + (attrOctets w.sel).length < 65536

def plainTransform (s : Selected) : WireTransform := ⟨0, 0, s⟩

/-- the octets of a transform, `more` in front -/
def wireTransform (more : UInt8) (w : WireTransform) : Bytes :=
  [more, w.reserved1] ++ enc16 (8 + (attrOctets w.sel).length)
    ++ [UInt8.ofNat w.sel.type, w.reserved2] ++ enc16 w.sel.transform.id ++ attrOctets w.sel

/-- 3 in front of every transform but the last, which has 0 -/
def wireTransforms : List WireTransform → Bytes
  | [] => []
  | [w] => wireTransform transformLast w
  | w :: ws => wireTransform transformMore w ++ wireTransforms ws

/-- a proposal with its reserved octet and its count -/
structure WireProposal where
  reserved : UInt8
  number : Nat
  protocol : Nat
  count : Nat
  spi : Bytes
  transforms : List WireTransform

structure WireProposal.Wf (p : WireProposal) : Prop where
  number : p.number < 256
  protocol : p.protocol < 256
  count : p.count < 256
  spi : p.spi.length < 256
  some : p.transforms ≠ []
  transforms : ∀ w ∈ p.transforms, w.Wf
  size : 8 + p.spi.length + (wireTransforms p.transforms).length < 65536

/-- the length in the header of a proposal -/
def WireProposal.len (p : WireProposal) : Nat :=
  8 + p.spi.length + (wireTransforms p.transforms).length

def wireProposal (more : UInt8) (p : WireProposal) : Bytes :=
  [more, p.reserved] ++ enc16 p.len ++ [UInt8.ofNat p.number, UInt8.ofNat p.protocol,
    UInt8.ofNat p.spi.length, UInt8.ofNat p.count] ++ p.spi ++ wireTransforms p.transforms

/-- 2 in front of every proposal but the last, which has 0 -/
def wireProposals : List WireProposal → Bytes
  | [] => []
  | [p] => wireProposal 0 p
  | p :: ps => wireProposal proposalMore p ++ wireProposals ps

theorem wireTransforms_cons (w : WireTransform) (ws : List WireTransform) :
    wireTransforms (w :: ws)
      = wireTransform (if ws.isEmpty then transformLast else transformMore) w
        ++ wireTransforms ws := by
  cases ws with
  | nil => exact (List.append_nil _).symm
  | cons w' ws' => rfl

theorem wireProposals_cons (p : WireProposal) (ps : List WireProposal) :
    wireProposals (p :: ps)
      = wireProposal (if ps.isEmpty then 0 else proposalMore) p ++ wireProposals ps := by
  cases ps with
  | nil => exact (List.append_nil _).symm
  | cons p' ps' => rfl

/-! ## attributes -/

theorem checkAttribSyntax_nil (n : Nat) : checkAttribSyntax n [] = true := by
  cases n <;> rfl

theorem parseAttrs_nil (n : Nat) : parseAttrs n [] = [] := by
  cases n <;> rfl

/-- the first attribute -/
def headAttr (attrib : Bytes) : Attr :=
  if 0x8000 ≤ be16 attrib 0 then .short (be16 attrib 0 - 0x8000) (be16 attrib 2)
  else .long (be16 attrib 0) (slice attrib 4 (be16 attrib 2))

theorem encodeAttr_length (a : Attr) : (encodeAttr a).length = a.size := by
  cases a with
  | short type value => rfl
  | long type value =>
    unfold encodeAttr Attr.size
    rw [List.length_append]
    rfl

/-- reading an attribute that was written -/
theorem headAttr_encode {a : Attr} (h : a.Wf) (rest : Bytes) :
    headAttr (encodeAttr a ++ rest) = a
    ∧ attributeLength (encodeAttr a ++ rest) = (encodeAttr a).length := by
  rw [encodeAttr_length]
  cases a with
  | short type value =>
    have htype : be16 (encodeAttr (.short type value) ++ rest) 0 = 0x8000 + type :=
      octets_value (by have := h.1; omega)
    have hvalue : be16 (encodeAttr (.short type value) ++ rest) 2 = value := octets_value h.2
    unfold headAttr attributeLength
    rw [htype, if_pos (Nat.le_add_right _ _), if_pos (Nat.le_add_right _ _), hvalue,
      Nat.add_sub_cancel_left]
    exact ⟨rfl, rfl⟩
  | long type value =>
    have htype : be16 (encodeAttr (.long type value) ++ rest) 0 = type :=
      octets_value (by have := h.1; omega)
    have hvalue : be16 (encodeAttr (.long type value) ++ rest) 2 = value.length := octets_value h.2
    have hshort : ¬ 0x8000 ≤ type := Nat.not_le.mpr h.1
    have hslice := slice_append_right (enc16 type ++ enc16 value.length) (value ++ rest) 0
      value.length
    unfold headAttr attributeLength
    rw [htype, if_neg hshort, if_neg hshort, hvalue]
    refine ⟨?_, rfl⟩
    have hoctets : encodeAttr (.long type value) ++ rest
        = enc16 type ++ enc16 value.length ++ (value ++ rest) := by
      unfold encodeAttr
      rw [List.append_assoc]
    rw [hoctets]
    congr 1
    exact hslice.trans (slice_zero_append _ _ _ rfl)

/-- the octets of the first attribute, written again -/
theorem encode_headAttr {b : Bytes} (h4 : 4 ≤ b.length) (hlen : attributeLength b ≤ b.length) :
    (headAttr b).Wf ∧ b = encodeAttr (headAttr b) ++ b.drop (attributeLength b) := by
  have h0 := be16_lt b 0
  have h2 := be16_lt b 2
  have hhead := split_four h4
  unfold headAttr attributeLength at *
  by_cases hshort : 0x8000 ≤ be16 b 0
  · rw [if_pos hshort] at hlen ⊢
    rw [if_pos hshort]
    refine ⟨⟨by omega, h2⟩, ?_⟩
    have htype : 0x8000 + (be16 b 0 - 0x8000) = be16 b 0 := by omega
    show b = enc16 (0x8000 + (be16 b 0 - 0x8000)) ++ enc16 (be16 b 2) ++ b.drop 4
    rw [htype, enc16_be16, enc16_be16]
    exact hhead
  · rw [if_neg hshort] at hlen ⊢
    rw [if_neg hshort]
    have hvalue : (slice b 4 (be16 b 2)).length = be16 b 2 := slice_length _ _ _ hlen
    refine ⟨⟨by omega, by rw [hvalue]; exact h2⟩, ?_⟩
    show b = enc16 (be16 b 0) ++ enc16 (slice b 4 (be16 b 2)).length ++ slice b 4 (be16 b 2)
      ++ b.drop (4 + be16 b 2)
    rw [hvalue, enc16_be16, enc16_be16]
    rw [List.append_assoc, slice_append_drop]
    exact hhead

theorem attributeLength_pos (b : Bytes) : 4 ≤ attributeLength b := by
  unfold attributeLength
  split
  · exact Nat.le_refl _
  · omega

theorem attrs_octets_cons (a : Attr) (as : List Attr) :
    (a :: as).flatMap encodeAttr = encodeAttr a ++ as.flatMap encodeAttr := List.flatMap_cons

theorem attrs_length_le (as : List Attr) : as.length ≤ (as.flatMap encodeAttr).length := by
  induction as with
  | nil => exact Nat.le_refl _
  | cons a as ih =>
    have hfour : 4 ≤ a.size := by
      cases a with
      | short type value => exact Nat.le_refl _
      | long type value => exact Nat.le_add_right _ _
    rw [attrs_octets_cons, List.length_append, encodeAttr_length, List.length_cons]
    omega

/-- one attribute in front of others -/
theorem attrs_step {a : Attr} (h : a.Wf) (n : Nat) (rest : Bytes) :
    checkAttribSyntax (n + 1) (encodeAttr a ++ rest) = checkAttribSyntax n rest
    ∧ parseAttrs (n + 1) (encodeAttr a ++ rest) = a :: parseAttrs n rest := by
  obtain ⟨hhead, hlen⟩ := headAttr_encode h rest
  have hfour : 4 ≤ (encodeAttr a).length := by
    rw [← hlen]
    exact attributeLength_pos _
  have hdrop : (encodeAttr a ++ rest).drop (attributeLength (encodeAttr a ++ rest)) = rest := by
    rw [hlen, List.drop_left]
  have hsize : (encodeAttr a ++ rest).length = (encodeAttr a).length + rest.length :=
    List.length_append
  constructor
  · rw [checkAttribSyntax, if_neg (by omega), if_neg (by omega), if_neg (by omega), hdrop]
  · rw [parseAttrs, if_neg (by omega), hdrop]
    exact congrArg (· :: parseAttrs n rest) hhead

/-- reading back attributes that were written -/
theorem attrs_read {as : List Attr} (h : ∀ a ∈ as, a.Wf) :
    ∀ n, as.length ≤ n → checkAttribSyntax n (as.flatMap encodeAttr) = true
      ∧ parseAttrs n (as.flatMap encodeAttr) = as := by
  induction as with
  | nil => exact fun n _ => ⟨checkAttribSyntax_nil n, parseAttrs_nil n⟩
  | cons a as ih =>
    intro n hn
    obtain ⟨n, rfl⟩ : ∃ n', n = n' + 1 := ⟨n - 1, by rw [List.length_cons] at hn; omega⟩
    obtain ⟨hcheck, hparse⟩ := attrs_step (h a List.mem_cons_self) n (as.flatMap encodeAttr)
    obtain ⟨hcheck', hparse'⟩ := ih (fun x hx => h x (List.mem_cons_of_mem _ hx)) n
      (by rw [List.length_cons] at hn; omega)
    rw [attrs_octets_cons, hcheck, hparse, hcheck', hparse']
    exact ⟨rfl, rfl⟩

/-- octets that pass the check are attributes, one behind the other -/
theorem attrs_of_check : ∀ (n : Nat) (b : Bytes), checkAttribSyntax n b = true →
    ∃ as : List Attr, (∀ a ∈ as, a.Wf) ∧ b = as.flatMap encodeAttr := by
  intro n
  induction n with
  | zero =>
    intro b h
    unfold checkAttribSyntax at h
    exact ⟨[], fun a ha => (nomatch ha), List.length_eq_zero_iff.mp (beq_iff_eq.mp h)⟩
  | succ n ih =>
    intro b h
    unfold checkAttribSyntax at h
    split at h
    · rename_i hempty
      exact ⟨[], fun a ha => (nomatch ha), List.length_eq_zero_iff.mp hempty⟩
    · split at h
      · cases h
      · rename_i hfour
        split at h
        · cases h
        · rename_i hlen
          obtain ⟨hwf, hb⟩ := encode_headAttr (Nat.not_lt.mp hfour) (Nat.not_lt.mp hlen)
          obtain ⟨as, hall, hrest⟩ := ih _ h
          refine ⟨headAttr b :: as, List.forall_mem_cons.mpr ⟨hwf, hall⟩, ?_⟩
          rw [attrs_octets_cons, ← hrest]
          exact hb

/-! ## transforms -/

section
variable {w : WireTransform} {more : UInt8} {rest : Bytes}

/-- the first eight octets of a transform -/
def wireTransformHead (more : UInt8) (w : WireTransform) : Bytes :=
  [more, w.reserved1, UInt8.ofNat ((8 + (attrOctets w.sel).length) / 256),
    UInt8.ofNat (8 + (attrOctets w.sel).length), UInt8.ofNat w.sel.type, w.reserved2,
    UInt8.ofNat (w.sel.transform.id / 256), UInt8.ofNat w.sel.transform.id]

theorem wireTransformHead_length (more : UInt8) (w : WireTransform) :
    (wireTransformHead more w).length = 8 := rfl

theorem wireTransform_append (more : UInt8) (w : WireTransform) (rest : Bytes) :
    wireTransform more w ++ rest = wireTransformHead more w ++ (attrOctets w.sel ++ rest) := rfl

theorem wireTransform_length (more : UInt8) (w : WireTransform) :
    (wireTransform more w).length = 8 + (attrOctets w.sel).length := by
  have happ := wireTransform_append more w []
  rw [List.append_nil, List.append_nil] at happ
  rw [happ, List.length_append, wireTransformHead_length]

/-- the fields of a transform in front of `rest` -/
structure TransformRead (s : Selected) (more : UInt8) (rest t : Bytes) : Prop where
  len : be16 t 2 = 8 + (attrOctets s).length
  np : byteAt t 0 = more
  type : (byteAt t 4).toNat = s.type
  id : be16 t 6 = s.transform.id
  attrs : slice t 8 (be16 t 2 - 8) = attrOctets s
  tail : t.drop (be16 t 2) = rest
  size : t.length = be16 t 2 + rest.length

theorem WireTransform.Wf.read (h : w.Wf) (more : UInt8) (rest : Bytes) :
    TransformRead w.sel more rest (wireTransform more w ++ rest) := by
  have h2 : be16 (wireTransform more w ++ rest) 2 = 8 + (attrOctets w.sel).length :=
    octets_value h.size
  refine ⟨h2, rfl, ?_, octets_value h.id, ?_, ?_, ?_⟩
  · exact octet_value h.type
  · rw [h2, Nat.add_sub_cancel_left]
    have hslice := slice_append_right (wireTransformHead more w) (attrOctets w.sel ++ rest) 0
      (attrOctets w.sel).length
    exact hslice.trans (slice_zero_append _ _ _ rfl)
  · rw [h2, ← wireTransform_length more w, List.drop_left]
  · rw [h2, ← wireTransform_length more w, List.length_append]

/-- the check and the parser on one transform -/
theorem wireTransform_step (h : w.Wf) (hmore : more = transformLast ∨ more = transformMore)
    (n : Nat) :
    checkTransforms (n + 1) (wireTransform more w ++ rest)
      = (if more = transformLast then rest.length == 0 else checkTransforms n rest)
    ∧ parseTransforms (n + 1) (wireTransform more w ++ rest)
      = w.sel :: if more = transformLast then [] else parseTransforms n rest := by
  have hr := h.read more rest
  generalize wireTransform more w ++ rest = t at hr
  have hsize := hr.size
  have hlen := hr.len
  have hnp : (more != 0 && more != 3) = false := by
    rcases hmore with rfl | rfl <;> rfl
  have hcount : w.sel.transform.attrs.length ≤ be16 t 2 := by
    rw [hlen]
    have hone : w.sel.transform.attrs.length ≤ (attrOctets w.sel).length := attrs_length_le _
    omega
  obtain ⟨hattrs, hparse⟩ := attrs_read h.attrs (be16 t 2) hcount
  constructor
  · rw [checkTransforms, if_neg (by omega), if_neg (by omega), if_neg (by omega), hr.np, hnp,
      if_neg (by simp), hr.attrs]
    unfold attrOctets
    rw [hattrs, if_neg (by simp), hr.tail]
    rfl
  · rw [parseTransforms, hr.np, hr.type, hr.id, hr.attrs]
    unfold attrOctets
    rw [hparse, hr.tail]
    rfl

end

theorem wireTransforms_length (ws : List WireTransform) :
    8 * ws.length ≤ (wireTransforms ws).length := by
  induction ws with
  | nil => exact Nat.le_refl _
  | cons w ws ih =>
    rw [wireTransforms_cons, List.length_append, wireTransform_length, List.length_cons]
    omega

/-- reading back transforms that were written -/
theorem wireTransforms_read {ws : List WireTransform} (hne : ws ≠ []) (h : ∀ w ∈ ws, w.Wf) :
    ∀ n, ws.length ≤ n → checkTransforms n (wireTransforms ws) = true
      ∧ parseTransforms n (wireTransforms ws) = ws.map WireTransform.sel := by
  induction ws with
  | nil => exact absurd rfl hne
  | cons w ws ih =>
    intro n hn
    obtain ⟨n, rfl⟩ : ∃ n', n = n' + 1 := ⟨n - 1, by rw [List.length_cons] at hn; omega⟩
    have hw := h w List.mem_cons_self
    cases ws with
    | nil =>
      obtain ⟨hcheck, hparse⟩ := @wireTransform_step w transformLast [] hw (.inl rfl) n
      rw [List.append_nil] at hcheck hparse
      exact ⟨hcheck, hparse⟩
    | cons w' ws' =>
      obtain ⟨hcheck, hparse⟩ := @wireTransform_step w transformMore
        (wireTransforms (w' :: ws')) hw (.inr rfl) n
      obtain ⟨hcheck', hparse'⟩ := ih (List.cons_ne_nil _ _)
        (fun x hx => h x (List.mem_cons_of_mem _ hx)) n
        (by rw [List.length_cons] at hn; omega)
      rw [if_neg (by decide)] at hcheck hparse
      rw [hcheck'] at hcheck
      rw [hparse'] at hparse
      exact ⟨hcheck, hparse⟩

/-- the octets of the first transform, written again -/
theorem wire_headTransform {t : Bytes} (h8 : 8 ≤ t.length) (hmin : 8 ≤ be16 t 2)
    (hlen : be16 t 2 ≤ t.length) {n : Nat}
    (hattrs : checkAttribSyntax n (slice t 8 (be16 t 2 - 8)) = true) :
    ∃ w : WireTransform, w.Wf ∧ t = wireTransform (byteAt t 0) w ++ t.drop (be16 t 2) := by
  obtain ⟨as, hall, hslice⟩ := attrs_of_check n _ hattrs
  have hsize : (slice t 8 (be16 t 2 - 8)).length = be16 t 2 - 8 := slice_length _ _ _ (by omega)
  have hwhole : 8 + (be16 t 2 - 8) = be16 t 2 := by omega
  have h2 := be16_lt t 2
  let w : WireTransform := ⟨byteAt t 1, byteAt t 5, (byteAt t 4).toNat, be16 t 6, as⟩
  have hoctets : attrOctets w.sel = slice t 8 (be16 t 2 - 8) := hslice.symm
  refine ⟨w, ⟨(byteAt t 4).toNat_lt, be16_lt t 6, hall, ?_⟩, ?_⟩
  · rw [hoctets, hsize, hwhole]
    exact h2
  · have hhead : wireTransformHead (byteAt t 0) w = [byteAt t 0, byteAt t 1, byteAt t 2, byteAt t 3,
        byteAt t 4, byteAt t 5, byteAt t 6, byteAt t 7] := by
      show [byteAt t 0, byteAt t 1] ++ enc16 (8 + (attrOctets w.sel).length)
        ++ [UInt8.ofNat (byteAt t 4).toNat, byteAt t 5] ++ enc16 (be16 t 6) = _
      rw [hoctets, hsize, hwhole, enc16_be16, enc16_be16, UInt8.ofNat_toNat]
      rfl
    have hrest : slice t 8 (be16 t 2 - 8) ++ t.drop (be16 t 2) = t.drop 8 := by
      nth_rewrite 2 [← hwhole]
      exact slice_append_drop t 8 _
    rw [wireTransform_append, hhead, hoctets, hrest]
    exact split_eight h8

/-- octets that pass the check are transforms, one behind the other -/
theorem transforms_of_check : ∀ (n : Nat) (t : Bytes), checkTransforms n t = true →
    ∃ ws : List WireTransform, ws ≠ [] ∧ (∀ w ∈ ws, w.Wf) ∧ t = wireTransforms ws := by
  intro n
  induction n with
  | zero =>
    intro t h
    cases h
  | succ n ih =>
    intro t h
    unfold checkTransforms at h
    split at h
    · cases h
    · rename_i h8
      split at h
      · cases h
      · rename_i hmin
        split at h
        · cases h
        · rename_i hlen
          split at h
          · cases h
          · rename_i hnp
            split at h
            · cases h
            · rename_i hattrs
              rw [Bool.not_eq_true, Bool.not_eq_false'] at hattrs
              obtain ⟨w, hwf, ht⟩ := wire_headTransform (Nat.not_lt.mp h8) (Nat.not_lt.mp hmin)
                (Nat.not_lt.mp hlen) hattrs
              split at h
              · rename_i hlast
                have hempty : t.drop (be16 t 2) = [] :=
                  List.length_eq_zero_iff.mp (beq_iff_eq.mp h)
                rw [hempty, List.append_nil, hlast] at ht
                exact ⟨[w], List.cons_ne_nil _ _, by simpa using hwf, ht⟩
              · rename_i hmore
                obtain ⟨ws, hne, hall, hrest⟩ := ih _ h
                have hthree : byteAt t 0 = transformMore := by
                  simp only [Bool.and_eq_true, bne_iff_ne, not_and, not_not] at hnp
                  exact hnp hmore
                rw [hthree, hrest] at ht
                refine ⟨w :: ws, List.cons_ne_nil _ _, List.forall_mem_cons.mpr ⟨hwf, hall⟩, ?_⟩
                cases ws with
                | nil => exact absurd rfl hne
                | cons w' ws' => exact ht

/-! ## proposals -/

/-- what the parser makes of a proposal -/
def WireProposal.proto (p : WireProposal) : Proto :=
  ⟨p.protocol, p.spi, groupTransforms (p.transforms.map WireTransform.sel)⟩

/-- a proposal that the check lets pass -/
structure WireProposal.Accepted (ikeSpiSize : Nat) (p : WireProposal) : Prop extends p.Wf where
  counted : p.count ≠ 0
  spiSize : checkSpiSize ikeSpiSize p.protocol p.spi.length = true

section
variable {ikeSpiSize : Nat} {p : WireProposal} {more : UInt8} {rest : Bytes}

def wireProposalHead (more : UInt8) (p : WireProposal) : Bytes :=
  [more, p.reserved, UInt8.ofNat (p.len / 256), UInt8.ofNat p.len, UInt8.ofNat p.number,
    UInt8.ofNat p.protocol, UInt8.ofNat p.spi.length, UInt8.ofNat p.count]

theorem wireProposalHead_length (more : UInt8) (p : WireProposal) :
    (wireProposalHead more p).length = 8 := rfl

theorem wireProposal_append (more : UInt8) (p : WireProposal) (rest : Bytes) :
    wireProposal more p ++ rest
      = wireProposalHead more p ++ (p.spi ++ (wireTransforms p.transforms ++ rest)) := by
  unfold wireProposal
  rw [List.append_assoc, List.append_assoc]
  rfl

theorem wireProposal_length (more : UInt8) (p : WireProposal) :
    (wireProposal more p).length = p.len := by
  rw [← List.append_nil (wireProposal more p), wireProposal_append, List.length_append,
    List.length_append, List.length_append, wireProposalHead_length, List.length_nil, Nat.add_zero,
    ← Nat.add_assoc]
  rfl

/-- the fields of a proposal in front of `rest` -/
structure ProposalFields (p : WireProposal) (more : UInt8) (rest b : Bytes) : Prop where
  np : byteAt b 0 = more
  len : be16 b 2 = p.len
  number : (byteAt b 4).toNat = p.number
  protocol : (byteAt b 5).toNat = p.protocol
  spiSize : (byteAt b 6).toNat = p.spi.length
  count : (byteAt b 7).toNat = p.count
  spiOctets : slice b 8 p.spi.length = p.spi
  transforms : slice b (8 + p.spi.length) (p.len - 8 - p.spi.length)
    = wireTransforms p.transforms
  tail : b.drop p.len = rest
  size : b.length = p.len + rest.length

theorem WireProposal.Wf.read (h : p.Wf) (more : UInt8) (rest : Bytes) :
    ProposalFields p more rest (wireProposal more p ++ rest) := by
  have hslice := fun i n => slice_append_right (wireProposalHead more p)
    (p.spi ++ (wireTransforms p.transforms ++ rest)) i n
  rw [wireProposalHead_length, ← wireProposal_append] at hslice
  refine ⟨rfl, octets_value h.size, octet_value h.number, octet_value h.protocol,
    octet_value h.spi, octet_value h.count, ?_, ?_, ?_, ?_⟩
  · exact (hslice 0 _).trans (slice_zero_append _ _ _ rfl)
  · have hrest : p.len - 8 - p.spi.length = (wireTransforms p.transforms).length := by
      unfold WireProposal.len
      omega
    rw [hrest, hslice, ← Nat.add_zero p.spi.length, slice_append_right]
    exact slice_zero_append _ _ _ rfl
  · rw [← wireProposal_length more p, List.drop_left]
  · rw [List.length_append, wireProposal_length]

theorem WireProposal.Wf.transforms_read (h : p.Wf) :
    checkTransforms (p.len + 1) (wireTransforms p.transforms) = true
    ∧ parseTransforms (p.len + 1) (wireTransforms p.transforms)
      = p.transforms.map WireTransform.sel := by
  have hpos := wireTransforms_length p.transforms
  apply wireTransforms_read h.some h.transforms
  unfold WireProposal.len
  omega

/-- the check on one proposal -/
theorem wireProposal_check (h : p.Accepted ikeSpiSize) {last : Nat} (hlast : last ≤ p.number)
    (hmore : more = 0 ∧ rest = [] ∨ more = proposalMore) (n : Nat) :
    checkProposals ikeSpiSize (n + 1) last (wireProposal more p ++ rest)
      = checkProposals ikeSpiSize n p.number rest := by
  have hr := h.toWf.read more rest
  generalize wireProposal more p ++ rest = b at hr
  have hsize := hr.size
  have hlen : p.len = 8 + p.spi.length + (wireTransforms p.transforms).length := rfl
  have hnp : (more != 0 && more != 2) = false := by
    rcases hmore with ⟨rfl, -⟩ | rfl <;> rfl
  have hend : (more == 0 && p.len != b.length) = false := by
    rcases hmore with ⟨rfl, rfl⟩ | rfl
    · rw [hsize, List.length_nil, Nat.add_zero, bne_self_eq_false, Bool.and_false]
    · rfl
  have hcount : byteAt b 7 ≠ 0 := by
    intro hzero
    apply h.counted
    rw [← hr.count, hzero]
    rfl
  rw [checkProposals]
  simp only [hr.np, hr.len, hr.number, hr.protocol, hr.spiSize, hr.transforms, hr.tail, hnp, hend,
    h.spiSize, h.toWf.transforms_read.1, Bool.not_true, Bool.false_eq_true, if_false]
  rw [if_neg (by omega), if_neg (by omega), if_neg (by omega), if_neg (by omega), if_neg (by omega),
    if_neg hcount]

theorem parseProposals_short (m : Nat) (array : Nat → List Proto) {b : Bytes} (h : b.length < 8) :
    parseProposals m b array = none := by
  cases m with
  | zero => rfl
  | succ m => rw [parseProposals, if_pos h]

/-- the array with one more protocol -/
def addProto (array : Nat → List Proto) (p : WireProposal) (number : Nat) : List Proto :=
  if number = p.number then array number ++ [p.proto] else array number

/-- the parser on one proposal -/
theorem wireProposal_parse (h : p.Wf) (n : Nat) (array : Nat → List Proto) :
    parseProposals (n + 1) (wireProposal more p ++ rest) array
      = if more = 0 then some (addProto array p) else parseProposals n rest (addProto array p) := by
  have hr := h.read more rest
  generalize wireProposal more p ++ rest = b at hr
  have hsize := hr.size
  have hlen : p.len = 8 + p.spi.length + (wireTransforms p.transforms).length := rfl
  have hbound : (decide (p.len < 8 + p.spi.length) || decide (b.length < p.len)) = false := by
    rw [Bool.or_eq_false_iff, decide_eq_false_iff_not, decide_eq_false_iff_not]
    omega
  rw [parseProposals]
  simp only [hr.np, hr.len, hr.number, hr.protocol, hr.spiSize, hr.transforms, hr.spiOctets,
    hr.tail, h.transforms_read.2, hbound, Bool.false_eq_true, if_false]
  rw [if_neg (by omega)]
  rfl

end

/-- the proposals of an SA payload -/
structure SaProposals (ikeSpiSize : Nat) (ps : List WireProposal) : Prop where
  some : ps ≠ []
  each : ∀ p ∈ ps, p.Accepted ikeSpiSize
  numbers : (ps.map WireProposal.number).Pairwise (· ≤ ·)

/-- the protocols of each number, in the order of the payload -/
def protosOf (ps : List WireProposal) (number : Nat) : List Proto :=
  (ps.filter (·.number == number)).map WireProposal.proto

theorem addProto_protosOf (array : Nat → List Proto) (p : WireProposal) (ps : List WireProposal)
    (number : Nat) :
    addProto array p number ++ protosOf ps number = array number ++ protosOf (p :: ps) number := by
  unfold addProto protosOf
  by_cases h : number = p.number
  · have hbeq : (p.number == number) = true := beq_iff_eq.mpr h.symm
    rw [if_pos h, List.filter_cons, if_pos hbeq, List.map_cons, List.append_assoc]
    rfl
  · have hbeq : ¬ (p.number == number) = true := fun hbeq => h (beq_iff_eq.mp hbeq).symm
    rw [if_neg h, List.filter_cons, if_neg hbeq]

section
variable {ikeSpiSize : Nat}

theorem checkProposals_nil (n last : Nat) : checkProposals ikeSpiSize n last [] = true := by
  cases n <;> rfl

/-- reading back proposals that were written; `last` is the number before -/
theorem wireProposals_read {ps : List WireProposal} (h : SaProposals ikeSpiSize ps) :
    ∀ n last array, ps.length ≤ n → (∀ p ∈ ps, last ≤ p.number) →
      checkProposals ikeSpiSize n last (wireProposals ps) = true
      ∧ parseProposals n (wireProposals ps) array
        = some fun number => array number ++ protosOf ps number := by
  induction ps with
  | nil => exact absurd rfl h.some
  | cons p ps ih =>
    intro n last array hn hlast
    obtain ⟨n, rfl⟩ : ∃ n', n = n' + 1 := ⟨n - 1, by rw [List.length_cons] at hn; omega⟩
    have hp := h.each p List.mem_cons_self
    have hle := hlast p List.mem_cons_self
    cases ps with
    | nil =>
      have hcheck := @wireProposal_check ikeSpiSize p 0 [] hp last hle (.inl ⟨rfl, rfl⟩) n
      have hparse := @wireProposal_parse p 0 [] hp.toWf n array
      rw [checkProposals_nil, List.append_nil] at hcheck
      rw [if_pos rfl, List.append_nil] at hparse
      refine ⟨hcheck, hparse.trans (congrArg some (funext fun number => ?_))⟩
      rw [← addProto_protosOf]
      exact (List.append_nil _).symm
    | cons p' ps' =>
      have hasc := List.pairwise_cons.mp h.numbers
      have hcheck := @wireProposal_check ikeSpiSize p proposalMore (wireProposals (p' :: ps')) hp
        last hle (.inr rfl) n
      have hparse := @wireProposal_parse p proposalMore (wireProposals (p' :: ps')) hp.toWf n array
      obtain ⟨hcheck', hparse'⟩ := ih
        ⟨List.cons_ne_nil _ _, fun q hq => h.each q (List.mem_cons_of_mem _ hq), hasc.2⟩ n p.number
        (addProto array p) (by rw [List.length_cons] at hn; omega)
        (fun q hq => hasc.1 _ (List.mem_map_of_mem hq))
      rw [hcheck'] at hcheck
      rw [if_neg (by decide), hparse'] at hparse
      refine ⟨hcheck, hparse.trans (congrArg some (funext fun number => ?_))⟩
      exact addProto_protosOf array p (p' :: ps') number

/-- the octets of the first proposal, written again -/
theorem wire_headProposal {b : Bytes} (h8 : 8 ≤ b.length)
    (hmin : 8 + (byteAt b 6).toNat ≤ be16 b 2) (hlen : be16 b 2 ≤ b.length)
    (hspi : checkSpiSize ikeSpiSize (byteAt b 5).toNat (byteAt b 6).toNat = true)
    (hcount : byteAt b 7 ≠ 0) {n : Nat} (htransforms : checkTransforms n
      (slice b (8 + (byteAt b 6).toNat) (be16 b 2 - 8 - (byteAt b 6).toNat)) = true) :
    ∃ p : WireProposal, p.Accepted ikeSpiSize ∧ p.number = (byteAt b 4).toNat
      ∧ b = wireProposal (byteAt b 0) p ++ b.drop (be16 b 2) := by
  obtain ⟨ws, hne, hall, hslice⟩ := transforms_of_check n _ htransforms
  have h2 := be16_lt b 2
  have hspiLen : (slice b 8 (byteAt b 6).toNat).length = (byteAt b 6).toNat :=
    slice_length _ _ _ (by omega)
  have hwsLen : (wireTransforms ws).length = be16 b 2 - 8 - (byteAt b 6).toNat := by
    rw [← hslice]
    exact slice_length _ _ _ (by omega)
  let p : WireProposal := ⟨byteAt b 1, (byteAt b 4).toNat, (byteAt b 5).toNat, (byteAt b 7).toNat,
    slice b 8 (byteAt b 6).toNat, ws⟩
  have hwhole : p.len = be16 b 2 := by
    show 8 + (slice b 8 (byteAt b 6).toNat).length + (wireTransforms ws).length = be16 b 2
    rw [hspiLen, hwsLen]
    omega
  have hwf : p.Wf := by
    refine ⟨(byteAt b 4).toNat_lt, (byteAt b 5).toNat_lt, (byteAt b 7).toNat_lt, ?_, hne, hall, ?_⟩
    · show (slice b 8 (byteAt b 6).toNat).length < 256
      rw [hspiLen]
      exact (byteAt b 6).toNat_lt
    · exact hwhole.trans_lt h2
  refine ⟨p, ⟨hwf, ?_, ?_⟩, rfl, ?_⟩
  · intro hzero
    exact hcount (UInt8.toNat_inj.mp hzero)
  · show checkSpiSize ikeSpiSize (byteAt b 5).toNat (slice b 8 (byteAt b 6).toNat).length = true
    rw [hspiLen]
    exact hspi
  · have hhead : wireProposalHead (byteAt b 0) p = [byteAt b 0, byteAt b 1, byteAt b 2, byteAt b 3,
        byteAt b 4, byteAt b 5, byteAt b 6, byteAt b 7] := by
      show [byteAt b 0, byteAt b 1] ++ enc16 p.len ++ [UInt8.ofNat (byteAt b 4).toNat,
        UInt8.ofNat (byteAt b 5).toNat, UInt8.ofNat (slice b 8 (byteAt b 6).toNat).length,
        UInt8.ofNat (byteAt b 7).toNat] = _
      rw [hwhole, hspiLen, enc16_be16, UInt8.ofNat_toNat, UInt8.ofNat_toNat, UInt8.ofNat_toNat,
        UInt8.ofNat_toNat]
      rfl
    have hsum : 8 + (byteAt b 6).toNat + (be16 b 2 - 8 - (byteAt b 6).toNat) = be16 b 2 := by omega
    have hrest : p.spi ++ (wireTransforms p.transforms ++ b.drop (be16 b 2)) = b.drop 8 := by
      show slice b 8 (byteAt b 6).toNat ++ (wireTransforms ws ++ b.drop (be16 b 2)) = b.drop 8
      have hdrop := slice_append_drop b 8
        ((byteAt b 6).toNat + (be16 b 2 - 8 - (byteAt b 6).toNat))
      rw [← Nat.add_assoc, hsum] at hdrop
      rw [← hslice, ← List.append_assoc, slice_add]
      exact hdrop
    rw [wireProposal_append, hhead, hrest]
    exact split_eight h8

/-- what one turn of the check has found -/
structure ProposalChecked (ikeSpiSize last : Nat) (b : Bytes) : Prop where
  header : 8 ≤ b.length
  room : 8 + (byteAt b 6).toNat ≤ be16 b 2
  fits : be16 b 2 ≤ b.length
  np : byteAt b 0 = 0 ∧ be16 b 2 = b.length ∨ byteAt b 0 = proposalMore
  number : last ≤ (byteAt b 4).toNat
  spiSize : checkSpiSize ikeSpiSize (byteAt b 5).toNat (byteAt b 6).toNat = true
  count : byteAt b 7 ≠ 0
  transforms : checkTransforms (be16 b 2 + 1)
    (slice b (8 + (byteAt b 6).toNat) (be16 b 2 - 8 - (byteAt b 6).toNat)) = true

theorem checkProposals_cases {n last : Nat} {b : Bytes} (hne : b.length ≠ 0)
    (h : checkProposals ikeSpiSize (n + 1) last b = true) :
    ProposalChecked ikeSpiSize last b
      ∧ checkProposals ikeSpiSize n (byteAt b 4).toNat (b.drop (be16 b 2)) = true := by
  rw [checkProposals, if_neg hne] at h
  split at h
  · cases h
  rename_i hheader
  split at h
  · cases h
  rename_i hroom
  split at h
  · cases h
  rename_i hfits
  split at h
  · cases h
  rename_i hnp
  split at h
  · cases h
  rename_i hend
  split at h
  · cases h
  rename_i hnumber
  split at h
  · cases h
  rename_i hspi
  split at h
  · cases h
  rename_i hcount
  split at h
  · cases h
  rename_i htransforms
  refine ⟨⟨Nat.not_lt.mp hheader, Nat.not_lt.mp hroom, Nat.not_lt.mp hfits, ?_,
    Nat.not_lt.mp hnumber, by simpa using hspi, hcount, by simpa using htransforms⟩, h⟩
  by_cases hzero : byteAt b 0 = 0
  · refine .inl ⟨hzero, ?_⟩
    simpa [hzero] using hend
  · simp only [Bool.and_eq_true, bne_iff_ne, not_and, not_not] at hnp
    exact .inr (hnp hzero)

/-- octets that pass the check and the parser are proposals, one behind the other -/
theorem proposals_of_parse : ∀ (n last : Nat) (b : Bytes) (m : Nat) (array : Nat → List Proto),
    checkProposals ikeSpiSize n last b = true → (parseProposals m b array).isSome = true →
      ∃ ps, SaProposals ikeSpiSize ps ∧ (∀ p ∈ ps, last ≤ p.number) ∧ b = wireProposals ps := by
  intro n
  induction n with
  | zero =>
    intro last b m array hcheck hparse
    have hempty : b.length = 0 := beq_iff_eq.mp hcheck
    rw [parseProposals_short m array (by omega)] at hparse
    cases hparse
  | succ n ih =>
    intro last b m array hcheck hparse
    have hne : b.length ≠ 0 := by
      intro hempty
      rw [parseProposals_short m array (by omega)] at hparse
      cases hparse
    obtain ⟨hc, hcheck'⟩ := checkProposals_cases hne hcheck
    obtain ⟨p, hp, hnumber, hb⟩ := wire_headProposal hc.header hc.room hc.fits hc.spiSize hc.count
      hc.transforms
    have hlast : last ≤ p.number := hnumber ▸ hc.number
    rcases hc.np with ⟨hzero, hwhole⟩ | hmore
    · rw [hwhole, List.drop_length, List.append_nil, hzero] at hb
      refine ⟨[p], ⟨List.cons_ne_nil _ _, ?_, List.pairwise_singleton _ _⟩, ?_, hb⟩
      · exact List.forall_mem_singleton.mpr hp
      · exact List.forall_mem_singleton.mpr hlast
    · rw [hmore] at hb
      cases m with
      | zero => cases hparse
      | succ m =>
        -- the mark is taken at its word by the parser, which then wants another header
        rw [hb, wireProposal_parse hp.toWf, if_neg (by decide)] at hparse
        obtain ⟨ps, hps, hall, hrest⟩ := ih _ _ _ _ hcheck' hparse
        rw [hrest] at hb
        rw [← hnumber] at hall
        have hasc : ((p :: ps).map WireProposal.number).Pairwise (· ≤ ·) := by
          rw [List.map_cons, List.pairwise_cons]
          refine ⟨?_, hps.numbers⟩
          intro k hk
          obtain ⟨q, hq, rfl⟩ := List.mem_map.mp hk
          exact hall q hq
        refine ⟨p :: ps, ⟨List.cons_ne_nil _ _, List.forall_mem_cons.mpr ⟨hp, hps.each⟩, hasc⟩,
          List.forall_mem_cons.mpr ⟨hlast, fun q hq => hlast.trans (hall q hq)⟩, ?_⟩
        cases ps with
        | nil => exact absurd rfl hps.some
        | cons p' ps' => exact hb

theorem wireProposals_length (ps : List WireProposal) :
    8 * ps.length ≤ (wireProposals ps).length := by
  induction ps with
  | nil => exact Nat.le_refl _
  | cons p ps ih =>
    have hlen : 8 ≤ p.len := by
      unfold WireProposal.len
      omega
    rw [wireProposals_cons, List.length_append, wireProposal_length, List.length_cons]
    omega

/-- what is written is read back -/
theorem parseSa_wireProposals {ps : List WireProposal} (h : SaProposals ikeSpiSize ps) :
    parseSa ikeSpiSize (wireProposals ps) = some (protosOf ps) := by
  have hlen := wireProposals_length ps
  have hpos : 0 < ps.length := List.length_pos_iff.mpr h.some
  obtain ⟨hcheck, -⟩ := wireProposals_read h (wireProposals ps).length 0 (fun _ => [])
    (by omega) (fun p _ => Nat.zero_le _)
  obtain ⟨-, hparse⟩ := wireProposals_read h ((wireProposals ps).length + 1) 0 (fun _ => [])
    (by omega) (fun p _ => Nat.zero_le _)
  have hsome : ((wireProposals ps).length != 0) = true := by
    rw [bne_iff_ne]
    omega
  unfold parseSa checkProposalSyntax
  rw [hcheck, hsome, Bool.and_self, if_pos rfl, hparse]
  rfl

/-- the payloads that are parsed -/
theorem proposals_iff (payload : Bytes) : (parseSa ikeSpiSize payload).isSome = true
    ↔ ∃ ps, SaProposals ikeSpiSize ps ∧ payload = wireProposals ps := by
  constructor
  · intro h
    unfold parseSa checkProposalSyntax at h
    split at h
    · rename_i hcheck
      obtain ⟨ps, hps, -, hpayload⟩ := proposals_of_parse _ _ _ _ _
        (Bool.and_eq_true_iff.mp hcheck).2 h
      exact ⟨ps, hps, hpayload⟩
    · cases h
  · rintro ⟨ps, hps, rfl⟩
    rw [parseSa_wireProposals hps]
    rfl

end

/-! ## types -/

section
variable {α : Type} (typeOf : α → Nat)

/-- a type below all of the list -/
theorem find_below {a : Nat} {ts : List α} (h : ∀ s ∈ ts, a < typeOf s) :
    ts.find? (typeOf · == a) = none := by
  rw [List.find?_eq_none]
  intro s hs hsa
  exact absurd (beq_iff_eq.mp hsa) (Nat.ne_of_gt (h s hs))

/-- the first element is not found under a later type -/
theorem find_above {s : α} {type : Nat} (h : typeOf s < type) (ss : List α) :
    (s :: ss).find? (typeOf · == type) = ss.find? (typeOf · == type) := by
  have hne : (typeOf s == type) = false := beq_eq_false_iff_ne.mpr (Nat.ne_of_lt h)
  rw [List.find?_cons, hne]

/-- a list with ascending types, looked up type by type; induction on the number of types -/
theorem filterMap_find_ascending : ∀ (n a : Nat) (ts : List α),
    (ts.map typeOf).Pairwise (· < ·) → (∀ s ∈ ts, a ≤ typeOf s ∧ typeOf s < a + n) →
      (List.range' a n).filterMap (fun type => ts.find? (typeOf · == type)) = ts := by
  intro n
  induction n with
  | zero =>
    intro a ts _ hrange
    cases ts with
    | nil => rfl
    | cons s ss =>
      have hs := hrange s List.mem_cons_self
      omega
  | succ n ih =>
    intro a ts hasc hrange
    rw [List.range'_succ]
    cases ts with
    | nil => exact List.filterMap_eq_nil_iff.mpr fun _ _ => rfl
    | cons s ss =>
      rw [List.map_cons, List.pairwise_cons] at hasc
      have hlater : ∀ x ∈ ss, typeOf s < typeOf x := fun x hx => hasc.1 _ (List.mem_map_of_mem hx)
      have hs := hrange s List.mem_cons_self
      by_cases heq : typeOf s = a
      · -- the first element has this type, the others have later ones
        have hfind : (s :: ss).find? (typeOf · == a) = some s := by
          rw [List.find?_cons, heq, beq_self_eq_true]
        have hskip : (List.range' (a + 1) n).filterMap (fun type => (s :: ss).find? (typeOf · == type))
            = (List.range' (a + 1) n).filterMap (fun type => ss.find? (typeOf · == type)) := by
          apply List.filterMap_congr
          intro type htype
          have hge := (List.mem_range'_1.mp htype).1
          exact find_above typeOf (by omega) ss
        rw [List.filterMap_cons, hfind]
        show s :: _ = s :: ss
        rw [hskip, ih (a + 1) ss hasc.2]
        intro x hx
        have hx' := hrange x (List.mem_cons_of_mem _ hx)
        have hlt := hlater x hx
        omega
      · -- nothing has this type
        have hbelow : ∀ x ∈ s :: ss, a < typeOf x := by
          intro x hx
          rcases List.mem_cons.mp hx with rfl | hmem
          · omega
          · have hlt := hlater x hmem
            omega
        rw [List.filterMap_cons, find_below typeOf hbelow]
        apply ih (a + 1)
        · rw [List.map_cons, List.pairwise_cons]
          exact hasc
        · intro x hx
          have hx' := hrange x hx
          have hlt := hbelow x hx
          omega

end

/-! ## where the parser looks -/

/-- octets that are read: where they begin and how many they are -/
structure Span where
  start : Nat
  size : Nat

def Span.Inside (s : Span) (first last : Nat) : Prop := first ≤ s.start ∧ s.start + s.size ≤ last

/-- the attributes of a transform, with `bytes` of them left -/
def attrSpans : Nat → Nat → Nat → Bytes → List Span
  | 0, _, _, _ => []
  | n+1, start, bytes, attrib =>
    if bytes = 0 then []
    else
      ⟨start, attributeLength attrib⟩
      :: attrSpans n (start + attributeLength attrib) (bytes - attributeLength attrib)
          (attrib.drop (attributeLength attrib))

/-- the transforms that `ikev2_get_transforms` copies, with their attributes; it has no end of the
proposal to stop at, only the mark -/
def transformSpans : Nat → Nat → Bytes → List Span
  | 0, _, _ => []
  | n+1, start, t =>
    ⟨start, max 8 (be16 t 2)⟩
    :: attrSpans (be16 t 2) (start + 8) (be16 t 2 - 8) (t.drop 8)
    ++ if byteAt t 0 = 0 then [] else transformSpans n (start + be16 t 2) (t.drop (be16 t 2))

/-- the proposals that `isakmp_parse_proposal` copies, with their transforms -/
def proposalSpans (payloadLength turns : Nat) : Nat → Nat → Bytes → List Span
  | 0, _, _ => []
  | n+1, start, p =>
    let len := be16 p 2
    let spiSize := (byteAt p 6).toNat
    if payloadLength < start + 8 then []
    else if len < 8 + spiSize || payloadLength < start + len then []
    else
      ⟨start, 8 + spiSize⟩
      :: transformSpans turns (start + 8 + spiSize) (p.drop (8 + spiSize))
      ++ if byteAt p 0 = 0 then []
        else proposalSpans payloadLength turns n (start + len) (p.drop len)

/-- all that is read of a payload with `after` behind it in memory, for some turns of the loop over
the transforms -/
def saSpans (turns : Nat) (payload after : Bytes) : List Span :=
  proposalSpans payload.length turns (payload.length + 1) 0 (payload ++ after)

theorem Span.Inside.widen {s : Span} {first last first' last' : Nat} (h : s.Inside first last)
    (hfirst : first' ≤ first) (hlast : last ≤ last') : s.Inside first' last' :=
  ⟨hfirst.trans h.1, h.2.trans hlast⟩

theorem attrSpans_inside {as : List Attr} (h : ∀ a ∈ as, a.Wf) : ∀ n start after,
    ∀ s ∈ attrSpans n start (as.flatMap encodeAttr).length (as.flatMap encodeAttr ++ after),
      s.Inside start (start + (as.flatMap encodeAttr).length) := by
  induction as with
  | nil =>
    intro n start after s hs
    cases n <;> cases hs
  | cons a as ih =>
    intro n start after s hs
    cases n with
    | zero => cases hs
    | succ n =>
      rw [attrs_octets_cons, List.append_assoc] at hs
      obtain ⟨-, hlen⟩ := headAttr_encode (h a List.mem_cons_self) (as.flatMap encodeAttr ++ after)
      have hsize : (encodeAttr a ++ as.flatMap encodeAttr).length
          = (encodeAttr a).length + (as.flatMap encodeAttr).length := List.length_append
      have hfour : 4 ≤ (encodeAttr a).length := by
        rw [← hlen]
        exact attributeLength_pos _
      rw [attrSpans, if_neg (by omega), hlen, List.drop_left, hsize, Nat.add_sub_cancel_left] at hs
      rw [attrs_octets_cons, hsize]
      rcases List.mem_cons.mp hs with rfl | hs
      · exact ⟨Nat.le_refl _, by show start + (encodeAttr a).length ≤ _; omega⟩
      · have hin := ih (fun x hx => h x (List.mem_cons_of_mem _ hx)) n _ after s hs
        exact hin.widen (by omega) (by omega)

/-- one turn over the transforms -/
theorem transformSpans_step {w : WireTransform} (h : w.Wf) (more : UInt8) (rest : Bytes)
    (n start : Nat) : ∀ s ∈ transformSpans (n + 1) start (wireTransform more w ++ rest),
      s.Inside start (start + (wireTransform more w).length)
      ∨ more ≠ 0 ∧ s ∈ transformSpans n (start + (wireTransform more w).length) rest := by
  intro s hs
  have hr := h.read more rest
  have hattrs : (wireTransform more w ++ rest).drop 8 = attrOctets w.sel ++ rest := by
    rw [wireTransform_append]
    rfl
  have hmax : max 8 (8 + (attrOctets w.sel).length) = 8 + (attrOctets w.sel).length :=
    Nat.max_eq_right (Nat.le_add_right _ _)
  rw [transformSpans, hattrs, hr.tail, hr.np, hr.len, Nat.add_sub_cancel_left, hmax] at hs
  rw [wireTransform_length]
  rcases List.mem_append.mp hs with hs | hs
  · rcases List.mem_cons.mp hs with rfl | hs
    · exact .inl ⟨Nat.le_refl _, Nat.le_refl _⟩
    · have hin := attrSpans_inside h.attrs _ (start + 8) rest s hs
      refine .inl (hin.widen (by omega) ?_)
      show start + 8 + (attrOctets w.sel).length ≤ _
      omega
  · split at hs
    · cases hs
    · rename_i hmore
      exact .inr ⟨hmore, hs⟩

theorem transformSpans_inside {ws : List WireTransform} (hne : ws ≠ []) (h : ∀ w ∈ ws, w.Wf) :
    ∀ n start after, ∀ s ∈ transformSpans n start (wireTransforms ws ++ after),
      s.Inside start (start + (wireTransforms ws).length) := by
  induction ws with
  | nil => exact absurd rfl hne
  | cons w ws ih =>
    intro n start after s hs
    cases n with
    | zero => cases hs
    | succ n =>
      have hw := h w List.mem_cons_self
      cases ws with
      | nil =>
        rcases transformSpans_step hw transformLast after n start s hs with hin | ⟨hmore, -⟩
        · exact hin
        · exact absurd rfl hmore
      | cons w' ws' =>
        have hoctets : wireTransforms (w :: w' :: ws')
            = wireTransform transformMore w ++ wireTransforms (w' :: ws') := rfl
        rw [hoctets, List.append_assoc] at hs
        rw [hoctets, List.length_append]
        rcases transformSpans_step hw transformMore _ n start s hs with hin | ⟨-, hs⟩
        · exact hin.widen (Nat.le_refl _) (by omega)
        · have hin := ih (List.cons_ne_nil _ _) (fun x hx => h x (List.mem_cons_of_mem _ hx)) n _
            after s hs
          exact hin.widen (by omega) (by omega)

/-- one turn over the proposals -/
theorem proposalSpans_step {p : WireProposal} (h : p.Wf) (more : UInt8) (rest : Bytes)
    (payloadLength turns n start : Nat) :
    ∀ s ∈ proposalSpans payloadLength turns (n + 1) start (wireProposal more p ++ rest),
      s.Inside start (start + p.len)
      ∨ more ≠ 0 ∧ s ∈ proposalSpans payloadLength turns n (start + p.len) rest := by
  intro s hs
  have hr := h.read more rest
  have htransforms : (wireProposal more p ++ rest).drop (8 + p.spi.length)
      = wireTransforms p.transforms ++ rest := by
    rw [wireProposal_append, ← List.drop_drop]
    exact List.drop_left
  have hlen : p.len = 8 + p.spi.length + (wireTransforms p.transforms).length := rfl
  rw [proposalSpans] at hs
  simp only [hr.len, hr.spiSize, hr.np, hr.tail, htransforms] at hs
  split at hs
  · cases hs
  split at hs
  · cases hs
  rcases List.mem_append.mp hs with hs | hs
  · rcases List.mem_cons.mp hs with rfl | hs
    · refine .inl ⟨Nat.le_refl _, ?_⟩
      show start + (8 + p.spi.length) ≤ _
      omega
    · have hin := transformSpans_inside h.some h.transforms _ _ rest s hs
      exact .inl (hin.widen (by omega) (by omega))
  · split at hs
    · cases hs
    · rename_i hmore
      exact .inr ⟨hmore, hs⟩

theorem proposalSpans_inside (payloadLength turns : Nat) {ps : List WireProposal} (hne : ps ≠ [])
    (h : ∀ p ∈ ps, p.Wf) : ∀ n start after,
    ∀ s ∈ proposalSpans payloadLength turns n start (wireProposals ps ++ after),
      s.Inside start (start + (wireProposals ps).length) := by
  induction ps with
  | nil => exact absurd rfl hne
  | cons p ps ih =>
    intro n start after s hs
    cases n with
    | zero => cases hs
    | succ n =>
      have hp := h p List.mem_cons_self
      cases ps with
      | nil =>
        rcases proposalSpans_step hp 0 after _ _ n start s hs with hin | ⟨hmore, -⟩
        · rw [← wireProposal_length 0 p] at hin
          exact hin
        · exact absurd rfl hmore
      | cons p' ps' =>
        have hoctets : wireProposals (p :: p' :: ps')
            = wireProposal proposalMore p ++ wireProposals (p' :: ps') := rfl
        rw [hoctets, List.append_assoc] at hs
        rw [hoctets, List.length_append, wireProposal_length]
        rcases proposalSpans_step hp proposalMore _ _ _ n start s hs with hin | ⟨-, hs⟩
        · exact hin.widen (Nat.le_refl _) (by omega)
        · have hin := ih (List.cons_ne_nil _ _) (fun x hx => h x (List.mem_cons_of_mem _ hx)) n _
            after s hs
          exact hin.widen (by omega) (by omega)

/-- An SA payload is parsed exactly when it is a list of proposals, each filled by its SPI and its
transforms and these by their attributes, with the marks on all but the last of them, proposal
numbers that do not descend, SPIs of the size of their protocol and counts that are not zero.  The
protocols come back under their numbers, and nothing behind the payload is read. -/
theorem proposal_grammar (ikeSpiSize : Nat) (payload : Bytes) :
    ((parseSa ikeSpiSize payload).isSome = true
      ↔ ∃ ps, SaProposals ikeSpiSize ps ∧ payload = wireProposals ps)
    ∧ (∀ ps, SaProposals ikeSpiSize ps → payload = wireProposals ps →
        parseSa ikeSpiSize payload = some (protosOf ps))
    ∧ ((parseSa ikeSpiSize payload).isSome = true →
        ∀ turns after, ∀ s ∈ saSpans turns payload after, s.start + s.size ≤ payload.length) := by
  refine ⟨proposals_iff payload, ?_, ?_⟩
  · rintro ps hps rfl
    exact parseSa_wireProposals hps
  · intro hsome turns after s hs
    obtain ⟨ps, hps, rfl⟩ := (proposals_iff payload).mp hsome
    have hin := proposalSpans_inside _ turns hps.some (fun p hp => (hps.each p hp).toWf) _ 0 after s
      hs
    rw [Nat.zero_add] at hin
    exact hin.2

/-- a proposal for IKE that announces two transforms and has one, ENCR_AES_CBC -/
def twoAnnounced : Bytes := [0, 0, 0, 16, 1, 1, 0, 2, 0, 0, 0, 8, 1, 0, 0, 12]

/-- it is parsed, and is not a list of proposals whose counts are right -/
theorem announced_count_ignored : (parseSa 0 twoAnnounced).isSome = true
    ∧ ¬ ∃ ps, SaProposals 0 ps ∧ (∀ p ∈ ps, p.count = p.transforms.length)
      ∧ twoAnnounced = wireProposals ps := by
  refine ⟨by decide +kernel, ?_⟩
  rintro ⟨ps, hps, hcounts, hoctets⟩
  cases ps with
  | nil => exact hps.some rfl
  | cons p ps =>
    rw [wireProposals_cons] at hoctets
    have hr := (hps.each p List.mem_cons_self).toWf.read
      (if ps.isEmpty then 0 else proposalMore) (wireProposals ps)
    rw [← hoctets] at hr
    have hlen : p.len = 16 := hr.len.symm
    have hcount : p.count = 2 := hr.count.symm
    have htwo := hcounts p List.mem_cons_self
    have hpos := wireTransforms_length p.transforms
    unfold WireProposal.len at hlen
    omega

end Ikev2
