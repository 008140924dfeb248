import Mathlib.Data.List.Basic
import Racoon2.Iked.ConfigReply

/-!
# Split DNS of a CFG_REPLY

The names in INTERNAL_DNS_DOMAIN attributes, and the trust anchors that follow them, reach the
environment of the updown script.  A name is taken if it is a domain name and the allowlist of the
configuration has it or a name above it; an anchor, if only anchors stand between it and such a name;
and both only if the reply has a DNS server as well.

* `IsLdhName`, `IsEntry`, `InDomain`     names, entries of the list, and names below others;
* `acceptDomain_sound`                 what is taken;
* `SplitInv`                           the state of the walk, in terms of the attributes before;
* `SplitDnsRight`                      what should hold of the reply.
-/

set_option linter.unusedVariables false

namespace Ikev2
open Bytes

/-! ## names -/

/-- a label: letters in lower case, digits and hyphens, no hyphen at its ends -/
structure IsLdhLabel (l : Bytes) : Prop where
  ne_nil : l ≠ []
  length : l.length ≤ 63
  octets : ∀ c ∈ l, (97 ≤ c ∧ c ≤ 122) ∨ (48 ≤ c ∧ c ≤ 57) ∨ c = hyphen
  head : l.head? ≠ some hyphen
  last : l.getLast? ≠ some hyphen

/-- labels, with dots in between -/
def IsLdhName (dom : Bytes) : Prop :=
  dom.length ≤ 253 ∧ ∃ labels, labels ≠ [] ∧ (∀ l ∈ labels, IsLdhLabel l) ∧
    dom = [dot].intercalate labels

/-- an entry of the allowlist: what stands between two separators -/
def IsEntry (list entry : Bytes) : Prop :=
  ∃ pre post, list = pre ++ entry ++ post ∧ (∀ c ∈ entry, isSeparator c = false) ∧
    (∀ c ∈ pre.getLast?, isSeparator c = true) ∧ (∀ c ∈ post.head?, isSeparator c = true)

/-- the name is that of the entry, or one below it; the case of letters does not count -/
def InDomain (dom entry : Bytes) : Prop :=
  entry ≠ [] ∧ (dom.map toLower = entry.map toLower ∨
    ∃ sub, dom.map toLower = sub ++ dot :: entry.map toLower)

/-- what the initiator may take as a domain -/
def Allowed (allow : Option Bytes) (dom : Bytes) : Prop :=
  ∃ list entry, allow = some list ∧ IsEntry list entry ∧ InDomain dom (dropDot entry)

theorem toLower_of_ldh {c : UInt8} (h : isLdh c = true) :
    (97 ≤ toLower c ∧ toLower c ≤ 122) ∨ (48 ≤ toLower c ∧ toLower c ≤ 57) ∨ toLower c = hyphen := by
  unfold isLdh at h
  unfold toLower hyphen at *
  simp only [Bool.or_eq_true, Bool.and_eq_true, decide_eq_true_eq, beq_iff_eq, UInt8.le_iff_toNat_le,
    ← UInt8.toNat_inj] at h ⊢
  have hc := c.toNat_lt
  split
  next hup =>
    have hadd : (c + 32).toNat = c.toNat + 32 := by
      rw [UInt8.toNat_add]
      have hle : c.toNat ≤ 90 := hup.2
      exact Nat.mod_eq_of_lt (by show c.toNat + 32 < 256; omega)
    left
    rw [hadd]
    have h1 : 65 ≤ c.toNat := hup.1
    have h2 : c.toNat ≤ 90 := hup.2
    exact ⟨by show 97 ≤ c.toNat + 32; omega, by show c.toNat + 32 ≤ 122; omega⟩
  next hup =>
    rcases h with ((h | h) | h) | h
    · exact .inl h
    · exact absurd h hup
    · exact .inr (.inl h)
    · exact .inr (.inr h)

theorem toLower_eq_hyphen {c : UInt8} (h : toLower c = hyphen) : c = hyphen := by
  unfold toLower at h
  split at h
  next hup =>
    exfalso
    have h1 : 65 ≤ c.toNat := hup.1
    have h2 : c.toNat ≤ 90 := hup.2
    have hn : (c + 32).toNat = 45 := congrArg UInt8.toNat h
    rw [UInt8.toNat_add] at hn
    have hmod : (c.toNat + 32) % 256 = 45 := hn
    omega
  · exact h

/-- the loop, in the middle of a label whose octets are `cur` -/
theorem normalizeLoop_labels (v : Bytes) :
    ∀ (cur : Bytes) {out : Bytes} {prev : UInt8}, normalizeLoop cur.length prev v = some out →
      cur.length ≤ 63 →
      (∀ c ∈ cur, (97 ≤ c ∧ c ≤ 122) ∨ (48 ≤ c ∧ c ≤ 57) ∨ c = hyphen) → cur.head? ≠ some hyphen →
      (cur.getLast? = some hyphen → prev = hyphen) →
      ∃ labels, labels ≠ [] ∧ (∀ l ∈ labels, IsLdhLabel l) ∧ cur ++ out = [dot].intercalate labels := by
  induction v with
  | nil =>
    intro cur out prev h hlen hoct hhead hlast
    unfold normalizeLoop at h
    split at h
    · cases h
    next hok =>
      cases h
      rw [not_or] at hok
      refine ⟨[cur], List.cons_ne_nil _ _, ?_, by simp⟩
      intro l hl
      rw [List.mem_singleton.mp hl]
      exact ⟨fun hnil => hok.1 (by rw [hnil]; rfl), hlen, hoct, hhead, fun hl => hok.2 (hlast hl)⟩
  | cons c v ih =>
    intro cur out prev h hlen hoct hhead hlast
    unfold normalizeLoop at h
    split at h
    · split at h
      · cases h
      next hok =>
        rw [not_or] at hok
        obtain ⟨out', hout, rfl⟩ := Option.map_eq_some_iff.mp h
        obtain ⟨labels, hne, hall, hjoin⟩ := ih [] hout (by decide)
          (List.forall_mem_nil _) (by simp) (by simp)
        refine ⟨cur :: labels, List.cons_ne_nil _ _, ?_, ?_⟩
        · intro l hl
          rcases List.mem_cons.mp hl with rfl | hl
          · exact ⟨fun hnil => hok.1 (by rw [hnil]; rfl), hlen, hoct, hhead,
              fun hl => hok.2 (hlast hl)⟩
          · exact hall l hl
        · rw [List.nil_append] at hjoin
          cases labels with
          | nil => exact absurd rfl hne
          | cons l ls =>
            rw [hjoin]
            simp [List.intercalate]
    · split at h
      · cases h
      next hldh =>
        split at h
        · cases h
        next hfirst =>
          split at h
          · cases h
          next hmax =>
            obtain ⟨out', hout, rfl⟩ := Option.map_eq_some_iff.mp h
            have hldh' : isLdh c = true := by simpa using hldh
            have hlen' : (cur ++ [toLower c]).length = cur.length + 1 := by simp
            have hnext := ih (cur ++ [toLower c])
              (show normalizeLoop (cur ++ [toLower c]).length c v = some out' by rw [hlen']; exact hout) (by omega) ?_ ?_ ?_
            · obtain ⟨labels, hne, hall, hjoin⟩ := hnext
              exact ⟨labels, hne, hall, by rw [← hjoin]; simp⟩
            · intro x hx
              rcases List.mem_append.mp hx with hx | hx
              · exact hoct x hx
              · rw [List.mem_singleton.mp hx]
                exact toLower_of_ldh hldh'
            · cases cur with
              | nil =>
                intro hh
                have hc : toLower c = hyphen := by simpa using hh
                exact hfirst ⟨toLower_eq_hyphen hc, rfl⟩
              | cons x xs => exact hhead
            · intro hh
              have hc : toLower c = hyphen := by simpa using hh
              exact toLower_eq_hyphen hc

theorem normalizeLoop_length (v : Bytes) :
    ∀ {lab : Nat} {prev : UInt8} {out : Bytes}, normalizeLoop lab prev v = some out →
      out.length = v.length := by
  induction v with
  | nil =>
    intro lab prev out h
    unfold normalizeLoop at h
    split at h
    · cases h
    · cases h
      rfl
  | cons c v ih =>
    intro lab prev out h
    unfold normalizeLoop at h
    split at h
    · split at h
      · cases h
      · obtain ⟨out', hout, rfl⟩ := Option.map_eq_some_iff.mp h
        rw [List.length_cons, ih hout, List.length_cons]
    · split at h
      · cases h
      · split at h
        · cases h
        · split at h
          · cases h
          · obtain ⟨out', hout, rfl⟩ := Option.map_eq_some_iff.mp h
            rw [List.length_cons, ih hout, List.length_cons]

theorem dnsDomainNormalize_name {v dom : Bytes} (h : dnsDomainNormalize v = some dom) :
    IsLdhName dom ∧ dom ≠ [] := by
  unfold dnsDomainNormalize at h
  split at h
  · cases h
  next hlen =>
    have hsame := normalizeLoop_length _ h
    obtain ⟨labels, hne, hall, hjoin⟩ := normalizeLoop_labels _ [] h (by decide)
      (List.forall_mem_nil _) (by simp) (by simp)
    rw [List.nil_append] at hjoin
    refine ⟨⟨by omega, labels, hne, hall, hjoin⟩, ?_⟩
    rintro rfl
    exact hlen (.inl hsame.symm)

/-! ## the allowlist -/

theorem split_byteAt {b : Bytes} {k : Nat} (h : k < b.length) :
    b = b.take k ++ byteAt b k :: b.drop (k + 1) := by
  induction k generalizing b with
  | zero =>
    cases b with
    | nil => cases h
    | cons x b => rfl
  | succ k ih =>
    cases b with
    | nil => cases h
    | cons x b => exact congrArg (x :: ·) (ih (Nat.lt_of_succ_lt_succ h))

theorem entryAllows_within {dom entry : Bytes} (h : entryAllows dom entry = true) :
    InDomain dom entry := by
  unfold entryAllows at h
  simp only [Bool.and_eq_true, Bool.or_eq_true, decide_eq_true_eq, beq_iff_eq] at h
  obtain ⟨⟨⟨hpos, hle⟩, htail⟩, hbound⟩ := h
  refine ⟨List.ne_nil_of_length_pos hpos, ?_⟩
  rcases Nat.eq_or_lt_of_le hle with heq | hlt
  · left
    rwa [heq, Nat.sub_self, List.drop_zero] at htail
  · right
    obtain ⟨k, hk⟩ : ∃ k, dom.length - entry.length = k + 1 := ⟨dom.length - entry.length - 1, by omega⟩
    have hdot := hbound.resolve_left hlt.ne
    rw [hk] at htail hdot
    have hsplit := split_byteAt (b := dom) (k := k) (by omega)
    rw [show byteAt dom k = dot from hdot] at hsplit
    refine ⟨(dom.take k).map toLower, ?_⟩
    calc dom.map toLower = (dom.take k ++ dot :: dom.drop (k + 1)).map toLower := by rw [← hsplit]
      _ = (dom.take k).map toLower ++ dot :: (dom.drop (k + 1)).map toLower := by
        rw [List.map_append, List.map_cons]
        rfl
      _ = (dom.take k).map toLower ++ dot :: entry.map toLower := by rw [htail]

/-- the loop, when `pre` is behind it -/
theorem allowedLoop_entry {dom : Bytes} (n : Nat) :
    ∀ (pre : Bytes) {list : Bytes}, (pre = [] ∨ ∀ c ∈ list.head?, isSeparator c = true) →
      allowedLoop dom n list = true →
      ∃ entry, IsEntry (pre ++ list) entry ∧ InDomain dom (dropDot entry) := by
  induction n with
  | zero =>
    intro pre list _ h
    cases h
  | succ n ih =>
    intro pre list hpre h
    unfold allowedLoop at h
    split at h
    · cases h
    next hne =>
      simp only at h
      generalize hstart : list.dropWhile isSeparator = start at h
      have hlist : list = list.takeWhile isSeparator ++ start := by
        rw [← hstart]
        exact List.takeWhile_append_dropWhile.symm
      have hrun : start = (start.takeWhile fun c => !isSeparator c) ++
          start.dropWhile fun c => !isSeparator c := List.takeWhile_append_dropWhile.symm
      have hrest : ∀ c ∈ (start.dropWhile fun c => !isSeparator c).head?, isSeparator c = true := by
        intro c hc
        have := List.head?_dropWhile_not (fun c => !isSeparator c) start
        rw [Option.mem_def.mp hc] at this
        simpa using this
      split at h
      next hallows =>
        refine ⟨_, ⟨pre ++ list.takeWhile isSeparator, start.dropWhile fun c => !isSeparator c, ?_, ?_,
          ?_, hrest⟩, entryAllows_within hallows⟩
        · rw [List.append_assoc, ← hrun, List.append_assoc, ← hlist]
        · intro c hc
          have hall := List.all_takeWhile (p := fun c => !isSeparator c) (l := start)
          simpa using List.all_eq_true.mp hall c hc
        · -- in front of the entry: the beginning of the list, or a separator
          intro c hc
          cases hseps : list.takeWhile isSeparator with
          | nil =>
            rcases hpre with rfl | hhead
            · rw [hseps] at hc
              cases hc
            · cases list with
              | nil => exact absurd rfl hne
              | cons x list =>
                rw [List.takeWhile_cons_of_pos (hhead x rfl)] at hseps
                cases hseps
          | cons x seps =>
            have hmem : c ∈ list.takeWhile isSeparator := by
              rw [List.getLast?_append_of_ne_nil _ (by rw [hseps]; exact List.cons_ne_nil x seps)] at hc
              exact List.mem_of_getLast? hc
            have hall := List.all_takeWhile (p := isSeparator) (l := list)
            exact List.all_eq_true.mp hall c hmem
      next hallows =>
        have hgo := ih (pre ++ list.takeWhile isSeparator ++
          start.takeWhile fun c => !isSeparator c) (.inr hrest) h
        rwa [List.append_assoc, ← hrun, List.append_assoc, ← hlist] at hgo

/-- a domain that is taken -/
theorem acceptDomain_sound {allow : Option Bytes} {v dom : Bytes} (h : acceptDomain allow v = some dom) :
    IsLdhName dom ∧ Allowed allow dom ∧ dom ≠ [] := by
  unfold acceptDomain at h
  cases hn : dnsDomainNormalize v with
  | none => simp only [hn, reduceCtorEq] at h
  | some d =>
    simp only [hn] at h
    split at h
    next hallowed =>
      cases h
      obtain ⟨hname, hne⟩ := dnsDomainNormalize_name hn
      refine ⟨hname, ?_, hne⟩
      cases allow with
      | none => cases hallowed
      | some list =>
        obtain ⟨entry, hentry, hwithin⟩ := allowedLoop_entry _ [] (.inl rfl) hallowed
        exact ⟨list, entry, rfl, hentry, hwithin⟩
    · cases h

/-! ## the walk -/

/-- the domains of a reply, added one by one -/
def addDomains (field : Option Bytes) (doms : List Bytes) : Option Bytes :=
  doms.foldl (fun f dom => some (addDomain f dom)) field

/-- a domain that is taken stands among the attributes -/
def HasDomain (allow : Option Bytes) (as : List CfgAttr) : Prop :=
  ∃ a ∈ as, a.type = cfgInternalDnsDomain ∧ (acceptDomain allow a.value).isSome = true

/-- the attributes end with a domain that is taken, and anchors -/
def EndsInDomain (allow : Option Bytes) (as : List CfgAttr) : Prop :=
  ∃ pre dom tas, as = pre ++ ⟨cfgInternalDnsDomain, dom⟩ :: tas ∧
    (acceptDomain allow dom).isSome = true ∧ ∀ a ∈ tas, a.type = cfgInternalDnssecTa

/-- the anchor is from an attribute that follows a domain that is taken, with only anchors between -/
def AnchorFrom (allow : Option Bytes) (as : List CfgAttr) (ta : Bytes) : Prop :=
  ∃ pre dom tas post, as = pre ++ ⟨cfgInternalDnsDomain, dom⟩ ::
      (tas ++ ⟨cfgInternalDnssecTa, ta⟩ :: post) ∧
    (acceptDomain allow dom).isSome = true ∧ ∀ a ∈ tas, a.type = cfgInternalDnssecTa

def isDnsServer (a : CfgAttr) : Bool := a.type == cfgInternalIp4Dns || a.type == cfgInternalIp6Dns

/-- the walk has read `done` -/
structure SplitInv (allow : Option Bytes) (before : CfgChild) (done : List CfgAttr) (w : CfgWalk) :
    Prop where
  domains : ∃ added, w.child.internalDnsDomain = addDomains before.internalDnsDomain added ∧
    (∀ d ∈ added, IsLdhName d ∧ Allowed allow d ∧ d ≠ []) ∧ (HasDomain allow done → added ≠ [])
  anchor : w.child.internalDnssecTa = before.internalDnssecTa ∨
    ∃ ta, w.child.internalDnssecTa = some ta ∧ AnchorFrom allow done ta
  pairs : w.prevType = cfgInternalDnsDomain ∨ w.prevType = cfgInternalDnssecTa → EndsInDomain allow done
  split : w.gotSplit = false → w.child.internalDnsDomain = before.internalDnsDomain ∧
    w.child.internalDnssecTa = before.internalDnssecTa
  quiet : ¬ HasDomain allow done → w.gotSplit = false
  dns : w.gotDns = done.any isDnsServer

section
variable {allow : Option Bytes} {before : CfgChild} {done as : List CfgAttr} {w w' : CfgWalk} {a : CfgAttr}

theorem EndsInDomain.hasDomain (h : EndsInDomain allow done) : HasDomain allow done := by
  obtain ⟨pre, dom, tas, rfl, hacc, -⟩ := h
  exact ⟨_, List.mem_append_right _ List.mem_cons_self, rfl, hacc⟩

theorem AnchorFrom.mono {ta : Bytes} (h : AnchorFrom allow done ta) (as : List CfgAttr) :
    AnchorFrom allow (done ++ as) ta := by
  obtain ⟨pre, dom, tas, post, rfl, hrest⟩ := h
  exact ⟨pre, dom, tas, post ++ as, by simp, hrest⟩

theorem hasDomain_append_singleton :
    HasDomain allow (done ++ [a]) ↔ HasDomain allow done ∨
      (a.type = cfgInternalDnsDomain ∧ (acceptDomain allow a.value).isSome = true) := by
  unfold HasDomain
  constructor
  · rintro ⟨x, hx, hrest⟩
    rcases List.mem_append.mp hx with hx | hx
    · exact .inl ⟨x, hx, hrest⟩
    · rw [List.mem_singleton.mp hx] at hrest
      exact .inr hrest
  · rintro (⟨x, hx, hrest⟩ | hrest)
    · exact ⟨x, List.mem_append_left _ hx, hrest⟩
    · exact ⟨a, List.mem_append_right _ (List.mem_singleton_self a), hrest⟩

theorem splitInv_start (allow : Option Bytes) (before : CfgChild) :
    SplitInv allow before [] ⟨before, 0, false, false⟩ where
  domains := ⟨[], rfl, List.forall_mem_nil _, fun ⟨x, hx, _⟩ => absurd hx List.not_mem_nil⟩
  anchor := .inl rfl
  pairs := fun h => by rcases h with h | h <;> cases h
  split := fun _ => ⟨rfl, rfl⟩
  quiet := fun _ => rfl
  dns := rfl

/-- an attribute that leaves the two fields alone -/
theorem SplitInv.skip (h : SplitInv allow before done w)
    (hdom : w'.child.internalDnsDomain = w.child.internalDnsDomain)
    (hta : w'.child.internalDnssecTa = w.child.internalDnssecTa) (hsplit : w'.gotSplit = w.gotSplit)
    (hdns : w'.gotDns = (w.gotDns || isDnsServer a))
    (hno : ¬ (a.type = cfgInternalDnsDomain ∧ (acceptDomain allow a.value).isSome = true))
    (hpairs : w'.prevType = cfgInternalDnsDomain ∨ w'.prevType = cfgInternalDnssecTa →
      EndsInDomain allow (done ++ [a])) :
    SplitInv allow before (done ++ [a]) w' := by
  have hiff : HasDomain allow (done ++ [a]) ↔ HasDomain allow done := by
    rw [hasDomain_append_singleton, or_iff_left hno]
  obtain ⟨added, hadded, hgood, hne⟩ := h.domains
  exact {
    domains := ⟨added, hdom.trans hadded, hgood, fun hd => hne (hiff.mp hd)⟩
    anchor := by
      rw [hta]
      exact h.anchor.imp_right fun ⟨ta, hta, hfrom⟩ => ⟨ta, hta, hfrom.mono [a]⟩
    pairs := hpairs
    split := by
      rw [hsplit, hdom, hta]
      exact h.split
    quiet := by
      rw [hsplit, hiff]
      exact h.quiet
    dns := by
      rw [hdns, h.dns, List.any_append, List.any_cons, List.any_nil, Bool.or_false] }

/-- a domain -/
theorem SplitInv.dnsDomain (h : SplitInv allow before done w) (ha : a.type = cfgInternalDnsDomain) :
    SplitInv allow before (done ++ [a]) (cfgDnsDomain allow w a.value) := by
  have hdns : isDnsServer a = false := by
    unfold isDnsServer
    rw [ha]
    rfl
  unfold cfgDnsDomain
  cases hacc : acceptDomain allow a.value with
  | none =>
    refine h.skip ?_ ?_ ?_ ?_ ?_ ?_
    · rfl
    · rfl
    · rfl
    · rw [hdns, Bool.or_false]
    · simp [hacc]
    · rintro (hp | hp) <;> cases hp
  | some dom =>
    have hsome : (acceptDomain allow a.value).isSome = true := by
      rw [hacc]
      rfl
    have hends : EndsInDomain allow (done ++ [a]) :=
      ⟨done, a.value, [], by rw [← ha], hsome, List.forall_mem_nil _⟩
    obtain ⟨added, hadded, hgood, -⟩ := h.domains
    exact {
      domains := by
        refine ⟨added ++ [dom], ?_, ?_, fun _ => by simp⟩
        · show some (addDomain w.child.internalDnsDomain dom) = _
          rw [hadded]
          unfold addDomains
          rw [List.foldl_append]
          rfl
        · intro d hd
          rcases List.mem_append.mp hd with hd | hd
          · exact hgood d hd
          · rw [List.mem_singleton.mp hd]
            exact acceptDomain_sound hacc
      anchor := h.anchor.imp_right fun ⟨ta, hta, hfrom⟩ => ⟨ta, hta, hfrom.mono [a]⟩
      pairs := fun _ => hends
      split := fun hs => by cases hs
      quiet := fun hd => absurd hends.hasDomain hd
      dns := by
        rw [List.any_append, List.any_cons, List.any_nil, hdns, Bool.or_false, Bool.or_false]
        exact h.dns }

/-- an anchor -/
theorem SplitInv.dnssecTa (h : SplitInv allow before done w) (ha : a.type = cfgInternalDnssecTa) :
    SplitInv allow before (done ++ [a]) (cfgDnssecTa w a.value) := by
  have hdns : isDnsServer a = false := by
    unfold isDnsServer
    rw [ha]
    rfl
  have hno : ¬ (a.type = cfgInternalDnsDomain ∧ (acceptDomain allow a.value).isSome = true) := by
    rw [ha]
    exact fun hd => absurd hd.1 (by decide)
  unfold cfgDnssecTa
  split
  · refine h.skip ?_ ?_ ?_ ?_ hno ?_
    · rfl
    · rfl
    · rfl
    · rw [hdns, Bool.or_false]
    · rintro (hp | hp) <;> cases hp
  next hprev =>
    have hprev' : w.prevType = cfgInternalDnsDomain ∨ w.prevType = cfgInternalDnssecTa := by
      by_contra hno
      rw [not_or] at hno
      exact hprev hno
    obtain ⟨pre, dom, tas, hdone, hacc, htas⟩ := h.pairs hprev'
    have hends : EndsInDomain allow (done ++ [a]) := by
      refine ⟨pre, dom, tas ++ [a], by rw [hdone]; simp, hacc, ?_⟩
      intro x hx
      rcases List.mem_append.mp hx with hx | hx
      · exact htas x hx
      · rw [List.mem_singleton.mp hx]
        exact ha
    split
    · exact h.skip rfl rfl rfl (by rw [hdns, Bool.or_false]) hno fun _ => hends
    · obtain ⟨added, hadded, hgood, hne⟩ := h.domains
      exact {
        domains := ⟨added, hadded, hgood, fun hd =>
          hne ((hasDomain_append_singleton.mp hd).resolve_right hno)⟩
        anchor := .inr ⟨a.value, rfl, pre, dom, tas, [], by rw [hdone, ← ha]; simp, hacc, htas⟩
        pairs := fun _ => hends
        split := fun hs => by cases hs
        quiet := fun hd => absurd hends.hasDomain hd
        dns := by
          rw [List.any_append, List.any_cons, List.any_nil, hdns, Bool.or_false, Bool.or_false]
          exact h.dns }

theorem cfgOther_fields (w : CfgWalk) (a : CfgAttr) :
    (cfgOther w a).child.internalDnsDomain = w.child.internalDnsDomain ∧
      (cfgOther w a).child.internalDnssecTa = w.child.internalDnssecTa ∧
      (cfgOther w a).gotSplit = w.gotSplit ∧ (cfgOther w a).gotDns = (w.gotDns || isDnsServer a) := by
  have hsub4 : ∀ v, (cfgIp4Subnet w v).child.internalDnsDomain = w.child.internalDnsDomain ∧
      (cfgIp4Subnet w v).child.internalDnssecTa = w.child.internalDnssecTa ∧
      (cfgIp4Subnet w v).gotSplit = w.gotSplit ∧ (cfgIp4Subnet w v).gotDns = w.gotDns := by
    intro v
    unfold cfgIp4Subnet
    simp only
    split <;> exact ⟨rfl, rfl, rfl, rfl⟩
  have hsub6 : ∀ v, (cfgIp6Subnet w v).child.internalDnsDomain = w.child.internalDnsDomain ∧
      (cfgIp6Subnet w v).child.internalDnssecTa = w.child.internalDnssecTa ∧
      (cfgIp6Subnet w v).gotSplit = w.gotSplit ∧ (cfgIp6Subnet w v).gotDns = w.gotDns := by
    intro v
    unfold cfgIp6Subnet
    simp only
    split <;> exact ⟨rfl, rfl, rfl, rfl⟩
  by_cases h3 : a.type = cfgInternalIp4Dns
  · simp [cfgOther, isDnsServer, h3, cfgInternalIp4Dns, cfgInternalIp4Address, cfgInternalIp6Address]
  by_cases h10 : a.type = cfgInternalIp6Dns
  · simp [cfgOther, isDnsServer, h10, cfgInternalIp4Dns, cfgInternalIp4Address, cfgInternalIp6Address,
      cfgInternalIp4Nbns, cfgInternalAddressExpiry, cfgInternalIp4Dhcp, cfgApplicationVersion,
      cfgInternalIp6Dns]
  have hno : isDnsServer a = false := by
    unfold isDnsServer
    simp [h3, h10]
  rw [hno, Bool.or_false]
  unfold cfgOther
  simp only [if_neg h3, if_neg h10]
  repeat' split
  all_goals first
    | exact ⟨rfl, rfl, rfl, rfl⟩
    | exact hsub4 _
    | exact hsub6 _

theorem SplitInv.step (h : SplitInv allow before done w) (hs : cfgReplyAttr allow w a = some w') :
    SplitInv allow before (done ++ [a]) w' := by
  unfold cfgReplyAttr at hs
  split at hs
  · cases hs
  · split at hs
    next hdom =>
      cases hs
      exact h.dnsDomain hdom
    next hdom =>
      split at hs
      next hta =>
        cases hs
        exact h.dnssecTa hta
      next hta =>
        cases hs
        obtain ⟨h1, h2, h3, h4⟩ := cfgOther_fields w a
        refine h.skip ?_ ?_ ?_ ?_ (fun hd => hdom hd.1) ?_
        · exact h1
        · exact h2
        · exact h3
        · exact h4
        · rintro (hp | hp) <;> cases hp

theorem cfgReplyAttr_eq_none : cfgReplyAttr allow w a = none ↔ a.lengthOk = false := by
  unfold cfgReplyAttr
  cases a.lengthOk with
  | false => simp
  | true =>
    simp only [Bool.not_true, Bool.false_eq_true, if_false, reduceCtorEq, iff_false]
    split
    · exact Option.some_ne_none _
    · split <;> exact Option.some_ne_none _

/-- the walk: what it read, and the attribute it stopped at -/
theorem cfgReplyLoop_split :
    ∀ (as : List CfgAttr) {done : List CfgAttr} {w : CfgWalk}, SplitInv allow before done w →
      ∃ p q, as = p ++ q ∧ SplitInv allow before (done ++ p) (cfgReplyLoop allow w as).1 ∧
        (∀ x ∈ p, x.lengthOk = true) ∧
        ((cfgReplyLoop allow w as).2 = true ∧ q = [] ∨
          (cfgReplyLoop allow w as).2 = false ∧ ∃ a q', q = a :: q' ∧ a.lengthOk = false) := by
  intro as
  induction as with
  | nil =>
    intro done w h
    exact ⟨[], [], rfl, by simpa [cfgReplyLoop] using h, List.forall_mem_nil _, .inl ⟨rfl, rfl⟩⟩
  | cons a as ih =>
    intro done w h
    cases hs : cfgReplyAttr allow w a with
    | none =>
      have hbad := cfgReplyAttr_eq_none.mp hs
      refine ⟨[], a :: as, rfl, ?_, List.forall_mem_nil _, .inr ⟨?_, a, as, rfl, hbad⟩⟩
      · simpa [cfgReplyLoop, hs] using h
      · simp [cfgReplyLoop, hs]
    | some w₁ =>
      have hloop : cfgReplyLoop allow w (a :: as) = cfgReplyLoop allow w₁ as := by
        simp only [cfgReplyLoop, hs]
      obtain ⟨p, q, rfl, hinv, hok, hend⟩ := ih (h.step hs)
      rw [hloop]
      refine ⟨a :: p, q, rfl, ?_, ?_, hend⟩
      · simpa using hinv
      · intro x hx
        rcases List.mem_cons.mp hx with rfl | hx
        · by_contra hbad
          rw [cfgReplyAttr_eq_none.mpr (by simpa using hbad)] at hs
          cases hs
        · exact hok x hx

end

/-! ## the reply -/

/-- what should hold of a reply, accepted or not -/
structure SplitDnsRight (allow : Option Bytes) (before : CfgChild) (as : List CfgAttr)
    (result : CfgChild × Bool) : Prop where
  domains : ∃ added, result.1.internalDnsDomain = addDomains before.internalDnsDomain added ∧
    ∀ d ∈ added, IsLdhName d ∧ Allowed allow d
  anchor : result.1.internalDnssecTa = before.internalDnssecTa ∨
    ∃ ta, result.1.internalDnssecTa = some ta ∧ AnchorFrom allow as ta
  unchanged : (as.any isDnsServer = false ∨ result.2 = false) →
    result.1.internalDnsDomain = before.internalDnsDomain ∧
      result.1.internalDnssecTa = before.internalDnssecTa

/-- no domain that is taken stands before the attribute that rejects the reply -/
def NoDomainBeforeReject (allow : Option Bytes) (as : List CfgAttr) : Prop :=
  ∀ pre a post, as = pre ++ a :: post → (∀ x ∈ pre, x.lengthOk = true) → a.lengthOk = false →
    ¬ HasDomain allow pre

theorem addDomain_length (field : Option Bytes) {dom : Bytes} (h : dom ≠ []) :
    (field.getD []).length < (addDomain field dom).length := by
  have hpos := List.length_pos_of_ne_nil h
  unfold addDomain
  split
  · omega
  · rw [List.length_append, List.length_cons]
    omega

/-- a domain that was added does not go away -/
theorem addDomains_length (doms : List Bytes) (hne : ∀ d ∈ doms, d ≠ []) :
    ∀ field : Option Bytes, (field.getD []).length + doms.length ≤ ((addDomains field doms).getD []).length := by
  induction doms with
  | nil => exact fun field => Nat.le_refl _
  | cons d doms ih =>
    intro field
    have hgo := ih (fun x hx => hne x (List.mem_cons_of_mem d hx)) (some (addDomain field d))
    have hd := addDomain_length field (hne d List.mem_cons_self)
    have hsome : ((some (addDomain field d)).getD []).length = (addDomain field d).length := rfl
    have hfold : addDomains field (d :: doms) = addDomains (some (addDomain field d)) doms := rfl
    rw [hfold, List.length_cons]
    omega

theorem takeWhile_lengthOk {p q : List CfgAttr} {a : CfgAttr} (hp : ∀ x ∈ p, x.lengthOk = true)
    (ha : a.lengthOk = false) : (p ++ a :: q).takeWhile CfgAttr.lengthOk = p := by
  rw [List.takeWhile_append_of_pos hp, List.takeWhile_cons_of_neg (by simp [ha]), List.append_nil]

section
variable {allow : Option Bytes} {child : CfgChild} {as p : List CfgAttr} {w : CfgWalk}

/-- the end of the walk over all attributes -/
theorem splitDnsRight_accepted (h : SplitInv allow child as w) :
    SplitDnsRight allow child as
      (if w.gotSplit && !w.gotDns then
        ({ w.child with
          internalDnsDomain := child.internalDnsDomain
          internalDnssecTa := child.internalDnssecTa }, true)
      else (w.child, true)) := by
  obtain ⟨added, hadded, hgood, -⟩ := h.domains
  split
  · exact ⟨⟨[], rfl, List.forall_mem_nil _⟩, .inl rfl, fun _ => ⟨rfl, rfl⟩⟩
  next hkeep =>
    refine ⟨⟨added, hadded, fun d hd => ⟨(hgood d hd).1, (hgood d hd).2.1⟩⟩, h.anchor, ?_⟩
    rintro (hno | hrej)
    · apply h.split
      rw [h.dns, hno] at hkeep
      simpa using hkeep
    · cases hrej

/-- the walk stopped behind `p` -/
theorem splitDnsRight_rejected (h : SplitInv allow child p w) :
    SplitDnsRight allow child as (w.child, false) ↔ ¬ HasDomain allow p := by
  obtain ⟨added, hadded, hgood, hne⟩ := h.domains
  constructor
  · intro hright hhas
    have hsame := (hright.unchanged (.inr rfl)).1
    have hlen := addDomains_length added (fun d hd => (hgood d hd).2.2) child.internalDnsDomain
    have hpos := List.length_pos_of_ne_nil (hne hhas)
    have hback : addDomains child.internalDnsDomain added = child.internalDnsDomain :=
      hadded.symm.trans hsame
    rw [hback] at hlen
    omega
  · intro hno
    refine ⟨⟨added, hadded, fun d hd => ⟨(hgood d hd).1, (hgood d hd).2.1⟩⟩, ?_,
      fun _ => h.split (h.quiet hno)⟩
    exact .inl (h.split (h.quiet hno)).2

end

/-- for every reply, Child SA and allowlist: the reply leaves what it should exactly when no domain that
is taken stands before an attribute that rejects the reply -/
theorem split_dns_right_iff (allow : Option Bytes) (child : CfgChild) (b : Bytes) :
    SplitDnsRight allow child (cfgAttrs b.length b) (processCfgReplyAttribs allow child b) ↔
      NoDomainBeforeReject allow (cfgAttrs b.length b) := by
  obtain ⟨p, q, has, hinv, hok, hend⟩ :=
    cfgReplyLoop_split (cfgAttrs b.length b) (splitInv_start allow child)
  rw [List.nil_append] at hinv
  unfold processCfgReplyAttribs
  generalize cfgAttrs b.length b = as at *
  simp only
  rcases hend with ⟨hacc, rfl⟩ | ⟨hrej, a, q', rfl, hbad⟩
  · rw [List.append_nil] at has
    subst has
    rw [hacc]
    refine iff_of_true (splitDnsRight_accepted hinv) ?_
    intro pre a post has hpre hbad
    rw [hok a (has ▸ List.mem_append_right pre List.mem_cons_self)] at hbad
    cases hbad
  · rw [hrej]
    refine (splitDnsRight_rejected hinv).trans ?_
    constructor
    · intro hno pre x post hsplit hpre hx
      -- the first attribute of a wrong length is where the walk stopped
      have hp := takeWhile_lengthOk (q := q') hok hbad
      rw [← has, hsplit, takeWhile_lengthOk hpre hx] at hp
      rwa [hp]
    · intro hno
      exact hno p a q' has hok hbad

/-- a domain of the allowlist, then an INTERNAL_IP4_DNS of three octets -/
def rejectedReply : Bytes :=
  (CfgAttr.encode ⟨25, [99, 111, 114, 112]⟩) ++ CfgAttr.encode ⟨3, [192, 0, 2]⟩

/-- the reply is rejected, and the domain stays -/
theorem rejected_reply_leaves_domain :
    ¬ SplitDnsRight (some [99, 111, 114, 112]) CfgChild.fresh (cfgAttrs rejectedReply.length rejectedReply)
      (processCfgReplyAttribs (some [99, 111, 114, 112]) CfgChild.fresh rejectedReply) := by
  intro h
  have hsame := (h.unchanged (.inr (by decide))).1
  revert hsame
  decide

end Ikev2
