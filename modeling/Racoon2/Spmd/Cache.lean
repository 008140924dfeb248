import Racoon2.Spmd.Dns

/-!
# The cache of names and addresses

`cache_update` takes the answers of a DNS reply into the cache: for each address the names of the
FQDN database that the answers give it to.

* `fqdnMatch`, `findFqdn`, `cacheUpdate`: the comparison, the lookups and the loop over the answers;
* `Offer`, `offers`: the pairs that the answers come with;
* `Regular`: an offer whose names are those of the database and of the answers, and not only longer.
-/

set_option linter.unusedVariables false

namespace Spmd
open Bytes

/-! ## names -/

/-- the C string at the start of an array -/
def cstr (b : Bytes) : Bytes := b.takeWhile (· ≠ 0)

/-- a name with a dot at its end -/
def withDot (s : Bytes) : Bytes := if s.getLast? = some 46 then s else s ++ [46]

/-- `fqdn_match` gives 0; strncmp compares as many octets as the first name has -/
def fqdnMatch (fqdn1 fqdn2 : Bytes) : Bool :=
  fqdn1.length < maxNameLen && fqdn2.length < maxNameLen &&
    (withDot fqdn1).length < maxNameLen && (withDot fqdn2).length < maxNameLen &&
    (withDot fqdn1).isPrefixOf (withDot fqdn2)

/-- `struct fqdn_list` of the database -/
structure FqdnEntry where
  fqdn : Bytes
  fal : List RrAddr
  deriving DecidableEq, Repr

/-- the results of `find_fqdn`: -1, 0 and 1 -/
inductive Found where
  | error
  | found
  | missing
  deriving DecidableEq, Repr

/-- `find_fqdn` -/
def findFqdn (names : List Bytes) (name : Bytes) : Found :=
  if names = [] ∨ name.length = 0 ∨ maxNameLen ≤ name.length then .error
  else if names.any (fqdnMatch · name) then .found
  else .missing

/-- `find_fqdn_db`; the place of the entry -/
def findFqdnDb (db : List FqdnEntry) (name : Bytes) : Option Nat :=
  if db = [] ∨ name.length = 0 ∨ maxNameLen ≤ name.length then none
  else db.findIdx? (fqdnMatch ·.fqdn name)

/-- `add_fqdn` -/
def addFqdn (names : List Bytes) (name : Bytes) : List Bytes :=
  if name.length = 0 ∨ maxNameLen ≤ name.length then names else names ++ [name]

/-- `add_fqdn_addr_list` -/
def addFqdnAddrList (sa : RrAddr) (fl : FqdnEntry) : FqdnEntry :=
  if sa ∈ fl.fal then fl else { fl with fal := fl.fal ++ [sa] }

/-! ## the cache -/

/-- `struct cache_entry` -/
structure CacheEntry where
  sock : RrAddr
  fltop : List Bytes
  deriving DecidableEq, Repr

/-- `find_cache_entry` -/
def findCacheEntry (cache : List CacheEntry) (sa : RrAddr) : Option CacheEntry :=
  cache.find? (·.sock = sa)

/-- `add_fqdn` for the entry that `find_cache_entry` gives -/
def extendEntry (sa : RrAddr) (name : Bytes) : List CacheEntry → List CacheEntry
  | [] => []
  | ce :: rest =>
    if ce.sock = sa then { ce with fltop := addFqdn ce.fltop name } :: rest
    else ce :: extendEntry sa name rest

/-- what the loop of `cache_update` carries; `hasCname` holds `orgfqdn` and `cname`, and `added`
records the pairs -/
structure Update where
  db : List FqdnEntry
  cache : List CacheEntry
  hasCname : Option (Bytes × Bytes)
  cacheUpdated : Bool
  added : List (RrAddr × Bytes)
  deriving DecidableEq, Repr

/-- a NULL pointer is followed, -1 is returned, or the loop goes on -/
inductive Turn where
  | crash
  | error (s : Update)
  | next (s : Update)
  deriving DecidableEq, Repr

/-- the pair goes into the cache and to the database entry that is looked up for it -/
def storePair (s : Update) (sa : RrAddr) (name : Bytes) (cache : List CacheEntry) : Turn :=
  match findFqdnDb s.db name with
  | none => .crash
  | some i =>
    .next { s with
      db := s.db.modify i (addFqdnAddrList sa)
      cache := cache
      cacheUpdated := true
      added := s.added ++ [(sa, name)] }

/-- the name that an address is entered for -/
def pairName (hasCname : Option (Bytes × Bytes)) (name : Bytes) : Bytes :=
  match hasCname with
  | some (orgfqdn, cname) => if cname.isPrefixOf name then orgfqdn else name
  | none => name

/-- an A or AAAA record of the loop -/
def updateAddr (s : Update) (name : Bytes) (sa : RrAddr) : Turn :=
  let name := pairName s.hasCname name
  match findCacheEntry s.cache sa with
  | none => storePair s sa name (⟨sa, addFqdn [] name⟩ :: s.cache)
  | some ce =>
    match findFqdn ce.fltop name with
    | .missing => storePair s sa name (extendEntry sa name s.cache)
    | .error => .error s
    | .found => .next s

/-- one record of the loop -/
def updateRr (s : Update) (rr : Rr) : Turn :=
  if findFqdn (s.db.map (·.fqdn)) (cstr rr.name) ≠ .found ∧ s.hasCname = none then .next s
  else if rr.type = typeCname then
    if s.hasCname ≠ none then .error s
    else .next { s with hasCname := some (cstr rr.name, cstr rr.rdata) }
  else if rr.type = typeA ∨ rr.type = typeAaaa then
    match rr.sa with
    | none => .crash
    | some sa => updateAddr s (cstr rr.name) sa
  else .next s

def updateLoop (s : Update) : List Rr → Turn
  | [] => .next s
  | rr :: rest =>
    match updateRr s rr with
    | .crash => .crash
    | .error s => .error s
    | .next s => updateLoop s rest

/-- `cache_update` -/
def cacheUpdate (db : List FqdnEntry) (cache : List CacheEntry) (a : List Rr) : Turn :=
  updateLoop ⟨db, cache, none, false, []⟩ a

/-! ## the pairs that answers come with -/

/-- two names are equal up to the dot at the end -/
def SameName (x y : Bytes) : Prop := withDot x = withDot y

def Listed (db : List FqdnEntry) (name : Bytes) : Prop := ∃ e ∈ db, SameName e.fqdn name

/-- an A or AAAA record of the answers gives the address to the name, or to a target that a CNAME
record of them gives for it -/
def Justified (a : List Rr) (sa : RrAddr) (name : Bytes) : Prop :=
  ∃ rr ∈ a, (rr.type = typeA ∨ rr.type = typeAaaa) ∧ rr.sa = some sa ∧
    (SameName (cstr rr.name) name ∨
      ∃ cr ∈ a, cr.type = typeCname ∧ SameName (cstr cr.name) name ∧
        SameName (cstr cr.rdata) (cstr rr.name))

/-- an address and the owner of its record; `via` is the name and the target of the CNAME record
before it, if the owner begins with the target -/
structure Offer where
  sa : RrAddr
  owner : Bytes
  via : Option (Bytes × Bytes)

def Offer.name (o : Offer) : Bytes := (o.via.map (·.1)).getD o.owner

def offer (hasCname : Option (Bytes × Bytes)) (name : Bytes) (sa : RrAddr) : Offer :=
  ⟨sa, name, hasCname.filter fun c => c.2.isPrefixOf name⟩

/-- the offers of the answers. The second CNAME record ends them, and so does an empty name -/
def offers (fqdns : List Bytes) : Option (Bytes × Bytes) → List Rr → List Offer
  | _, [] => []
  | hasCname, rr :: rest =>
    if findFqdn fqdns (cstr rr.name) ≠ .found ∧ hasCname = none then offers fqdns hasCname rest
    else if rr.type = typeCname then
      if hasCname ≠ none then [] else offers fqdns (some (cstr rr.name, cstr rr.rdata)) rest
    else if rr.type = typeA ∨ rr.type = typeAaaa then
      match rr.sa with
      | none => []
      | some sa =>
        if (offer hasCname (cstr rr.name) sa).name = [] then [offer hasCname (cstr rr.name) sa]
        else offer hasCname (cstr rr.name) sa :: offers fqdns hasCname rest
    else offers fqdns hasCname rest

/-- the names of an address leave nothing to add for an offer -/
def CoveredBy (names : List Bytes) (o : Offer) : Prop :=
  ∃ n ∈ names, o.name = [] ∨ fqdnMatch n o.name

/-- the cache has such names before the answers come -/
def Cached (cache : List CacheEntry) (o : Offer) : Prop :=
  ∃ ce, findCacheEntry cache o.sa = some ce ∧ CoveredBy ce.fltop o

/-- an earlier offer leaves nothing to add for a later one -/
def Offer.Covers (o later : Offer) : Prop := o.sa = later.sa ∧ CoveredBy [o.name] later

/-- the owner is a name of the database; an offer through a CNAME record is for such a name and is
justified by the answers -/
def Regular (db : List FqdnEntry) (a : List Rr) (o : Offer) : Prop :=
  match o.via with
  | none => o.owner ≠ [] ∧ Listed db o.owner
  | some (orgfqdn, _) => Listed db orgfqdn ∧ Justified a o.sa orgfqdn

/-- every offer that nothing before it covers is good -/
def EachNew (good : Offer → Prop) : (Offer → Prop) → List Offer → Prop
  | _, [] => True
  | covered, o :: rest =>
    (¬ covered o → good o) ∧ EachNew good (fun later => covered later ∨ o.Covers later) rest

/-! ## the comparison -/

theorem le_withDot (s : Bytes) : s.length ≤ (withDot s).length := by
  unfold withDot
  split
  · exact Nat.le_refl _
  · rw [List.length_append]
    exact Nat.le_add_right _ _

theorem fqdnMatch_iff {x y : Bytes} :
    fqdnMatch x y = true ↔
      (withDot x).length < maxNameLen ∧ (withDot y).length < maxNameLen ∧
        withDot x <+: withDot y := by
  have hx := le_withDot x
  have hy := le_withDot y
  unfold fqdnMatch
  simp only [Bool.and_eq_true, decide_eq_true_eq, List.isPrefixOf_iff_prefix]
  constructor
  · rintro ⟨⟨⟨⟨_, _⟩, hx⟩, hy⟩, h⟩
    exact ⟨hx, hy, h⟩
  · rintro ⟨hx', hy', h⟩
    exact ⟨⟨⟨⟨by omega, by omega⟩, hx'⟩, hy'⟩, h⟩

theorem fqdnMatch_trans {x y z : Bytes} (h : fqdnMatch x y = true) (h' : fqdnMatch y z = true) :
    fqdnMatch x z = true := by
  rw [fqdnMatch_iff] at h h' ⊢
  exact ⟨h.1, h'.2.1, h.2.2.trans h'.2.2⟩

theorem findFqdn_found_iff {names : List Bytes} {name : Bytes} :
    findFqdn names name = .found ↔
      name ≠ [] ∧ name.length < maxNameLen ∧ ∃ n ∈ names, fqdnMatch n name = true := by
  unfold findFqdn
  split
  · next h =>
    refine ⟨fun h' => (nomatch h'), ?_⟩
    rintro ⟨hne, hlen, n, hn, _⟩
    rcases h with h | h | h
    · rw [h] at hn
      cases hn
    · exact absurd (List.length_eq_zero_iff.mp h) hne
    · omega
  · next h =>
    have hne : name ≠ [] := fun h' => h (.inr (.inl (List.length_eq_zero_iff.mpr h')))
    have hlen : name.length < maxNameLen := Nat.lt_of_not_le fun h' => h (.inr (.inr h'))
    split
    · next hany =>
      obtain ⟨n, hn, hmatch⟩ := List.any_eq_true.mp hany
      exact ⟨fun _ => ⟨hne, hlen, n, hn, hmatch⟩, fun _ => rfl⟩
    · next hany =>
      refine ⟨fun h' => (nomatch h'), ?_⟩
      rintro ⟨_, _, n, hn, hmatch⟩
      exact absurd (List.any_eq_true.mpr ⟨n, hn, hmatch⟩) hany

/-- the entry that is looked up exists for the names that `find_fqdn` finds in the database -/
theorem findFqdnDb_isSome (db : List FqdnEntry) (name : Bytes) :
    (findFqdnDb db name).isSome = true ↔ findFqdn (db.map (·.fqdn)) name = .found := by
  unfold findFqdnDb findFqdn
  simp only [List.map_eq_nil_iff]
  split
  · exact ⟨fun h => (nomatch h), fun h => (nomatch h)⟩
  · rw [List.findIdx?_isSome, List.any_map]
    show (db.any fun e => fqdnMatch e.fqdn name) = true ↔
      (if (db.any fun e => fqdnMatch e.fqdn name) = true then Found.found else .missing) = .found
    split
    · next h => exact ⟨fun _ => rfl, fun _ => h⟩
    · next h => exact ⟨fun h' => absurd h' h, fun h' => nomatch h'⟩

/-- a name of the parser fits with a dot behind it -/
theorem NameFits.withDot_lt {name : Bytes} (h : NameFits name) :
    (withDot (cstr name)).length < maxNameLen := by
  obtain ⟨text, rfl, hdot, hlen⟩ := h
  have hpre : cstr (text ++ [0]) <+: text := by
    unfold cstr
    rw [List.takeWhile_append]
    split
    · rw [List.takeWhile_cons_of_neg (by decide), List.append_nil]
    · exact List.takeWhile_prefix _
  unfold withDot
  split
  · exact Nat.lt_of_le_of_lt hpre.length_le hlen
  · next hne =>
    -- the string is not the whole text, which ends in a dot
    have hshort : (cstr (text ++ [0])).length < text.length := by
      refine Nat.lt_of_le_of_ne hpre.length_le fun heq => hne ?_
      rw [hpre.eq_of_length heq]
      exact hdot
    rw [List.length_append, List.length_singleton]
    omega

/-! ## the cache that a pair leaves -/

/-- no entry of the cache is without names -/
def CacheOk (cache : List CacheEntry) : Prop := ∀ ce ∈ cache, ce.fltop ≠ []

section
variable {cache : List CacheEntry} {sa : RrAddr} {name : Bytes} {o : Offer}

theorem findCacheEntry_extend (b : RrAddr) :
    findCacheEntry (extendEntry sa name cache) b =
      if b = sa then (findCacheEntry cache b).map fun ce => { ce with fltop := addFqdn ce.fltop name }
      else findCacheEntry cache b := by
  unfold findCacheEntry
  induction cache with
  | nil => simp [extendEntry]
  | cons ce rest ih =>
    unfold extendEntry
    by_cases hce : ce.sock = sa
    · rw [if_pos hce]
      by_cases hb : b = sa
      · subst hb
        simp [hce]
      · have hne : ¬ ce.sock = b := fun h => hb (h.symm.trans hce)
        simp [hne, hb]
    · rw [if_neg hce]
      by_cases hb : ce.sock = b
      · subst hb
        simp [hce]
      · simp only [List.find?_cons, hb, decide_false]
        exact ih

theorem addFqdn_eq {names : List Bytes} (hne : name ≠ []) (hlen : name.length < maxNameLen) :
    addFqdn names name = names ++ [name] := by
  unfold addFqdn
  rw [if_neg]
  rintro (h | h)
  · exact hne (List.length_eq_zero_iff.mp h)
  · omega

theorem coveredBy_append {names names' : List Bytes} :
    CoveredBy (names ++ names') o ↔ CoveredBy names o ∨ CoveredBy names' o := by
  unfold CoveredBy
  simp only [List.mem_append, or_and_right, exists_or]

section
variable (hne : name ≠ []) (hlen : name.length < maxNameLen)

include hne hlen

/-- a new entry covers what was covered, and what its name covers -/
theorem cached_new (hnone : findCacheEntry cache sa = none) :
    Cached (⟨sa, addFqdn [] name⟩ :: cache) o ↔
      Cached cache o ∨ sa = o.sa ∧ CoveredBy [name] o := by
  rw [addFqdn_eq hne hlen, List.nil_append]
  unfold Cached findCacheEntry
  rw [List.find?_cons]
  by_cases h : sa = o.sa
  · subst h
    simp only [decide_true, Option.some.injEq, exists_eq_left', true_and]
    refine ⟨.inr, ?_⟩
    rintro (⟨ce, hce, _⟩ | h)
    · exact absurd (hnone.symm.trans hce) (by simp)
    · exact h
  · simp only [h, decide_false, false_and, or_false]

theorem cached_extend {ce : CacheEntry} (hce : findCacheEntry cache sa = some ce) :
    Cached (extendEntry sa name cache) o ↔ Cached cache o ∨ sa = o.sa ∧ CoveredBy [name] o := by
  unfold Cached
  rw [findCacheEntry_extend]
  by_cases h : o.sa = sa
  · rw [if_pos h, h, hce]
    simp only [Option.map_some, Option.some.injEq, exists_eq_left', addFqdn_eq hne hlen,
      coveredBy_append, true_and]
  · rw [if_neg h]
    simp only [show ¬ sa = o.sa from fun h' => h h'.symm, false_and, or_false]

end

theorem extendEntry_ok (h : CacheOk cache) : CacheOk (extendEntry sa name cache) := by
  induction cache with
  | nil => exact h
  | cons ce rest ih =>
    have hrest : CacheOk rest := fun c hc => h c (List.mem_cons_of_mem _ hc)
    have hhead := h ce List.mem_cons_self
    unfold extendEntry
    split
    · refine List.forall_mem_cons.mpr ⟨?_, hrest⟩
      show addFqdn ce.fltop name ≠ []
      unfold addFqdn
      split
      · exact hhead
      · exact fun h => absurd (List.append_eq_nil_iff.mp h).1 hhead
    · exact List.forall_mem_cons.mpr ⟨hhead, ih hrest⟩

end

/-! ## one record -/

/-- what is to hold of a pair: its name is in the database, and the answers justify it -/
def PairGood (db : List FqdnEntry) (a : List Rr) (p : RrAddr × Bytes) : Prop :=
  Listed db p.2 ∧ Justified a p.1 p.2

/-- what the loop keeps of the database and the cache it began with -/
structure Along (db : List FqdnEntry) (s : Update) : Prop where
  fqdns : s.db.map (·.fqdn) = db.map (·.fqdn)
  cacheOk : CacheOk s.cache
  org : ∀ c, s.hasCname = some c → findFqdn (db.map (·.fqdn)) c.1 = .found

theorem offer_name (hasCname : Option (Bytes × Bytes)) (name : Bytes) (sa : RrAddr) :
    (offer hasCname name sa).name = pairName hasCname name := by
  unfold offer Offer.name pairName
  rcases hasCname with _ | ⟨orgfqdn, cname⟩
  · rfl
  · rw [Option.filter_some]
    by_cases h : cname.isPrefixOf name = true
    · rw [if_pos h]
      exact (if_pos h).symm
    · rw [if_neg h]
      exact (if_neg h).symm

/-- the offer goes through the CNAME record or not -/
theorem offer_via (hasCname : Option (Bytes × Bytes)) (name : Bytes) (sa : RrAddr) :
    (offer hasCname name sa).via = none ∨
      ∃ c, hasCname = some c ∧ (offer hasCname name sa).via = some c := by
  unfold offer
  rcases hasCname with _ | c
  · exact .inl rfl
  · rw [Option.filter_some]
    split
    · exact .inr ⟨c, rfl, rfl⟩
    · exact .inl rfl

theorem sameName_refl (x : Bytes) : SameName x x := rfl

/-- a name of the database is found there -/
theorem findFqdn_of_listed {db : List FqdnEntry} {name : Bytes} (hne : name ≠ [])
    (hlen : (withDot name).length < maxNameLen) (h : Listed db name) :
    findFqdn (db.map (·.fqdn)) name = .found := by
  obtain ⟨e, he, hsame⟩ := h
  refine findFqdn_found_iff.mpr ⟨hne, Nat.lt_of_le_of_lt (le_withDot name) hlen, e.fqdn,
    List.mem_map_of_mem he, ?_⟩
  rw [fqdnMatch_iff, hsame]
  exact ⟨hlen, hlen, List.prefix_rfl⟩

/-- the regular offers are those whose entry exists and whose pair is good -/
theorem regular_iff {db : List FqdnEntry} {a : List Rr} {hasCname : Option (Bytes × Bytes)}
    (horg : ∀ c, hasCname = some c → findFqdn (db.map (·.fqdn)) c.1 = .found)
    {rr : Rr} (hrr : rr ∈ a) (hparsed : rr.Parsed) (htype : rr.type = typeA ∨ rr.type = typeAaaa)
    {sa : RrAddr} (hsa : rr.sa = some sa) :
    Regular db a (offer hasCname (cstr rr.name) sa) ↔
      (findFqdn (db.map (·.fqdn)) (offer hasCname (cstr rr.name) sa).name = .found ∧
        PairGood db a (sa, (offer hasCname (cstr rr.name) sa).name)) := by
  rcases offer_via hasCname (cstr rr.name) sa with hvia | ⟨c, hc, hvia⟩
  · have hname : (offer hasCname (cstr rr.name) sa).name = cstr rr.name := by
      unfold Offer.name
      rw [hvia]
      rfl
    unfold Regular
    rw [hname, hvia]
    constructor
    · rintro ⟨hne, hlisted⟩
      exact ⟨findFqdn_of_listed hne hparsed.name.withDot_lt hlisted, hlisted,
        rr, hrr, htype, hsa, .inl (sameName_refl _)⟩
    · rintro ⟨hfound, hlisted, _⟩
      exact ⟨(findFqdn_found_iff.mp hfound).1, hlisted⟩
  · have hname : (offer hasCname (cstr rr.name) sa).name = c.1 := by
      unfold Offer.name
      rw [hvia]
      rfl
    unfold Regular
    rw [hname, hvia]
    exact ⟨fun h => ⟨horg c hc, h⟩, fun h => h.2⟩

/-- the names of an entry of the cache cover an offer or miss it -/
theorem findFqdn_entry {names : List Bytes} {o : Offer} (hnames : names ≠ []) (hne : o.name ≠ [])
    (hlen : o.name.length < maxNameLen) :
    (CoveredBy names o ∧ findFqdn names o.name = .found) ∨
      (¬ CoveredBy names o ∧ findFqdn names o.name = .missing) := by
  have hiff : CoveredBy names o ↔ findFqdn names o.name = .found := by
    rw [findFqdn_found_iff]
    unfold CoveredBy
    simp only [hne, false_or, not_false_eq_true, hlen, true_and, ne_eq]
  by_cases h : CoveredBy names o
  · exact .inl ⟨h, hiff.mp h⟩
  · refine .inr ⟨h, ?_⟩
    rw [hiff] at h
    unfold findFqdn at h ⊢
    have hnot : ¬ (names = [] ∨ o.name.length = 0 ∨ maxNameLen ≤ o.name.length) := by
      rintro (h | h | h)
      · exact hnames h
      · exact hne (List.length_eq_zero_iff.mp h)
      · omega
    rw [if_neg hnot] at h ⊢
    split
    · next hany => exact absurd (if_pos hany) h
    · rfl

theorem storePair_cases {db : List FqdnEntry} {s : Update} (h : Along db s) (sa : RrAddr)
    (name : Bytes) (cache : List CacheEntry)
    (hcache : findFqdn (db.map (·.fqdn)) name = .found → CacheOk cache) :
    (findFqdn (db.map (·.fqdn)) name ≠ .found ∧ storePair s sa name cache = .crash) ∨
    (findFqdn (db.map (·.fqdn)) name = .found ∧
      ∃ s', storePair s sa name cache = .next s' ∧ s'.hasCname = s.hasCname ∧
        s'.added = s.added ++ [(sa, name)] ∧ s'.cache = cache ∧ Along db s') := by
  have hfound := findFqdnDb_isSome s.db name
  rw [h.fqdns] at hfound
  unfold storePair
  cases hlook : findFqdnDb s.db name with
  | none =>
    rw [hlook] at hfound
    exact .inl ⟨fun hf => (nomatch hfound.mpr hf), rfl⟩
  | some i =>
    rw [hlook] at hfound
    have hf := hfound.mp rfl
    refine .inr ⟨hf, _, rfl, rfl, rfl, rfl, ?_, hcache hf, h.org⟩
    rw [← h.fqdns]
    have hkeep : ∀ fl, (addFqdnAddrList sa fl).fqdn = fl.fqdn := by
      intro fl
      unfold addFqdnAddrList
      split <;> rfl
    apply List.ext_getElem?
    intro j
    rw [List.getElem?_map, List.getElem?_map, List.getElem?_modify]
    by_cases hj : i = j
    · cases s.db[j]? <;> simp [hj, hkeep]
    · simp [hj]

/-- the name of an offer fits without its NUL -/
theorem offer_length {db : List FqdnEntry} {s : Update} (halong : Along db s) {rr : Rr}
    (hparsed : rr.Parsed) (sa : RrAddr) :
    (offer s.hasCname (cstr rr.name) sa).name.length < maxNameLen := by
  unfold Offer.name
  rcases offer_via s.hasCname (cstr rr.name) sa with hvia | ⟨c, hc, hvia⟩
  · rw [hvia]
    exact Nat.lt_of_le_of_lt (le_withDot _) hparsed.name.withDot_lt
  · rw [hvia]
    exact (findFqdn_found_iff.mp (halong.org c hc)).2.1

/-- what the loop does with an offer, from the lookups and from what the cache covers -/
theorem updateAddr_cases {db : List FqdnEntry} {s : Update} (h : Along db s) {name : Bytes}
    {sa : RrAddr} {o : Offer} (ho : o = offer s.hasCname name sa)
    (hlen : o.name.length < maxNameLen) :
    (o.name = [] ∧ Cached s.cache o ∧ updateAddr s name sa = .error s) ∨
    (o.name ≠ [] ∧ Cached s.cache o ∧ updateAddr s name sa = .next s) ∨
    (¬ Cached s.cache o ∧ findFqdn (db.map (·.fqdn)) o.name ≠ .found ∧
      updateAddr s name sa = .crash) ∨
    (¬ Cached s.cache o ∧ findFqdn (db.map (·.fqdn)) o.name = .found ∧
      ∃ s', updateAddr s name sa = .next s' ∧ s'.hasCname = s.hasCname ∧
        s'.added = s.added ++ [(sa, o.name)] ∧ Along db s' ∧
        ∀ later, Cached s'.cache later ↔ Cached s.cache later ∨ o.Covers later) := by
  have hname : pairName s.hasCname name = o.name := by rw [ho, offer_name]
  have hsa : o.sa = sa := by rw [ho]; rfl
  have hfound : findFqdn (db.map (·.fqdn)) o.name = .found → o.name ≠ [] :=
    fun hf => (findFqdn_found_iff.mp hf).1
  unfold updateAddr
  simp only [hname]
  cases hce : findCacheEntry s.cache sa with
  | none =>
    have hnot : ¬ Cached s.cache o := by
      rintro ⟨ce, hce', _⟩
      rw [hsa, hce] at hce'
      cases hce'
    rcases storePair_cases h sa o.name (⟨sa, addFqdn [] o.name⟩ :: s.cache) (fun hf =>
      List.forall_mem_cons.mpr ⟨by simp [addFqdn_eq (hfound hf) hlen], h.cacheOk⟩) with
      ⟨hf, hcrash⟩ | ⟨hf, s', hnext, hc, hadded, hcache, halong⟩
    · exact .inr (.inr (.inl ⟨hnot, hf, hcrash⟩))
    · refine .inr (.inr (.inr ⟨hnot, hf, s', hnext, hc, hadded, halong, fun later => ?_⟩))
      rw [hcache, cached_new (hfound hf) hlen hce]
      unfold Offer.Covers
      rw [hsa]
  | some ce =>
    have hcov : Cached s.cache o ↔ CoveredBy ce.fltop o := by
      unfold Cached
      rw [hsa, hce]
      simp only [Option.some.injEq, exists_eq_left']
    have hnames : ce.fltop ≠ [] := h.cacheOk ce (List.mem_of_find?_eq_some hce)
    rw [hcov]
    dsimp only
    by_cases hne : o.name = []
    · refine .inl ⟨hne, ?_, ?_⟩
      · obtain ⟨n, hn⟩ := List.exists_mem_of_ne_nil _ hnames
        exact ⟨n, hn, .inl hne⟩
      · have hf : findFqdn ce.fltop o.name = .error :=
          if_pos (.inr (.inl (List.length_eq_zero_iff.mpr hne)))
        rw [hf]
    · rcases findFqdn_entry hnames hne hlen with ⟨hyes, hf⟩ | ⟨hno, hf⟩
      · rw [hf]
        exact .inr (.inl ⟨hne, hyes, rfl⟩)
      · rw [hf]
        rcases storePair_cases h sa o.name (extendEntry sa o.name s.cache)
          (fun _ => extendEntry_ok h.cacheOk) with
          ⟨hf, hcrash⟩ | ⟨hf, s', hnext, hc, hadded, hcache, halong⟩
        · exact .inr (.inr (.inl ⟨hno, hf, hcrash⟩))
        · refine .inr (.inr (.inr ⟨hno, hf, s', hnext, hc, hadded, halong, fun later => ?_⟩))
          rw [hcache, cached_extend hne hlen hce]
          unfold Offer.Covers
          rw [hsa]

/-- a record that is taken in leaves the database its names and every entry of the cache a name -/
theorem updateRr_along {db : List FqdnEntry} {s s' : Update} (halong : Along db s) {rr : Rr}
    (hparsed : rr.Parsed) (h : updateRr s rr = .next s') : Along db s' := by
  unfold updateRr at h
  rw [halong.fqdns] at h
  split at h
  · cases h
    exact halong
  next hlook =>
  split at h
  · split at h
    · cases h
    · next hnone =>
      cases h
      refine ⟨halong.fqdns, halong.cacheOk, fun c hc => ?_⟩
      obtain rfl := Option.some.inj hc
      exact not_not.mp fun h => hlook ⟨h, not_not.mp hnone⟩
  split at h
  · next htype =>
    obtain ⟨sa, hsa⟩ := hparsed.addressed htype
    rw [hsa] at h
    dsimp only at h
    rcases updateAddr_cases halong rfl (offer_length halong hparsed sa) with
      ⟨_, _, hturn⟩ | ⟨_, _, hturn⟩ | ⟨_, _, hturn⟩ | ⟨_, _, t, hturn, _, _, halong', _⟩
    · cases hturn.symm.trans h
    · cases hturn.symm.trans h
      exact halong
    · cases hturn.symm.trans h
    · cases hturn.symm.trans h
      exact halong'
  · cases h
    exact halong

/-! ## the whole answer -/

/-- the update follows no NULL pointer, and what it adds is good -/
def Turn.Meets (good : RrAddr × Bytes → Prop) : Turn → Prop
  | .crash => False
  | .error s => ∀ p ∈ s.added, good p
  | .next s => ∀ p ∈ s.added, good p

/-- no pair is taken back -/
def Turn.Keeps (s : Update) : Turn → Prop
  | .crash => True
  | .error s' => ∀ p ∈ s.added, p ∈ s'.added
  | .next s' => ∀ p ∈ s.added, p ∈ s'.added

theorem storePair_keeps (s : Update) (sa : RrAddr) (name : Bytes) (cache : List CacheEntry) :
    (storePair s sa name cache).Keeps s := by
  unfold storePair
  split
  · trivial
  · exact fun p hp => List.mem_append_left _ hp

theorem updateRr_keeps (s : Update) (rr : Rr) : (updateRr s rr).Keeps s := by
  unfold updateRr updateAddr
  dsimp only
  repeat' split
  all_goals first
    | exact storePair_keeps _ _ _ _
    | exact fun p hp => hp
    | trivial

theorem eachNew_congr {covered covered' : Offer → Prop} (good : Offer → Prop) (l : List Offer)
    (h : ∀ o, covered o ↔ covered' o) : EachNew good covered l ↔ EachNew good covered' l := by
  rw [show covered = covered' from funext fun o => propext (h o)]

/-- what a covered offer covers is covered -/
theorem Cached.covers {cache : List CacheEntry} {o later : Offer} (h : Cached cache o)
    (hne : o.name ≠ []) (hcov : o.Covers later) : Cached cache later := by
  obtain ⟨ce, hce, n, hn, hmatch⟩ := h
  obtain ⟨hsa, n', hn', hlater⟩ := hcov
  rw [List.mem_singleton] at hn'
  subst hn'
  refine ⟨ce, hsa ▸ hce, n, hn, ?_⟩
  rcases hlater with hlater | hlater
  · exact .inl hlater
  · exact .inr (fqdnMatch_trans (hmatch.resolve_left hne) hlater)

section
variable {db : List FqdnEntry} {a : List Rr}

theorem updateLoop_added {s : Update} {rest : List Rr}
    (h : (updateLoop s rest).Meets (PairGood db a)) : ∀ p ∈ s.added, PairGood db a p := by
  induction rest generalizing s with
  | nil => exact h
  | cons rr rest ih =>
    intro p hp
    have hkeeps := updateRr_keeps s rr
    unfold updateLoop at h
    cases hturn : updateRr s rr with
    | crash =>
      rw [hturn] at h
      exact h.elim
    | error s' =>
      rw [hturn] at h hkeeps
      exact h p (hkeeps p hp)
    | next s' =>
      rw [hturn] at h hkeeps
      exact ih h p (hkeeps p hp)

/-- a record with an address, before records that meet the purpose -/
theorem updateAddr_meets_iff {rest : List Rr} {s : Update} (halong : Along db s)
    (hgood : ∀ p ∈ s.added, PairGood db a p) {rr : Rr} (hrr : rr ∈ a) (hparsed : rr.Parsed)
    (htype : rr.type = typeA ∨ rr.type = typeAaaa) {sa : RrAddr} (hsa : rr.sa = some sa)
    (ih : ∀ s, Along db s → (∀ p ∈ s.added, PairGood db a p) →
      ((updateLoop s rest).Meets (PairGood db a) ↔
        EachNew (Regular db a) (Cached s.cache)
          (offers (db.map (·.fqdn)) s.hasCname rest))) :
    (Turn.Meets (PairGood db a)
      (match updateAddr s (cstr rr.name) sa with
        | .crash => .crash
        | .error s => .error s
        | .next s => updateLoop s rest)) ↔
      EachNew (Regular db a) (Cached s.cache)
        (if (offer s.hasCname (cstr rr.name) sa).name = [] then
          [offer s.hasCname (cstr rr.name) sa]
        else offer s.hasCname (cstr rr.name) sa :: offers (db.map (·.fqdn)) s.hasCname rest) := by
  have hregular := regular_iff halong.org hrr hparsed htype hsa
  have hlen := offer_length halong hparsed sa
  have hcases := updateAddr_cases halong rfl hlen
  generalize offer s.hasCname (cstr rr.name) sa = o at hregular hlen hcases
  rcases hcases with ⟨hname, hcov, hturn⟩ | ⟨hname, hcov, hturn⟩ | ⟨hnot, hmiss, hturn⟩ |
    ⟨hnot, hfound, s', hturn, hcname, hadded, halong', hcached⟩
  · rw [hturn, if_pos hname]
    exact ⟨fun _ => ⟨fun h => absurd hcov h, trivial⟩, fun _ => hgood⟩
  · rw [hturn, if_neg hname]
    refine (ih s halong hgood).trans ?_
    have hiff : ∀ later, Cached s.cache later ∨ o.Covers later ↔ Cached s.cache later :=
      fun later => ⟨fun h => h.elim id fun h => hcov.covers hname h, .inl⟩
    have hsame := eachNew_congr (Regular db a) (offers (db.map (·.fqdn)) s.hasCname rest) hiff
    exact ⟨fun h => ⟨fun h' => absurd hcov h', hsame.mpr h⟩, fun h => hsame.mp h.2⟩
  · have hnew : ∀ l, ¬ EachNew (Regular db a) (Cached s.cache) (o :: l) :=
      fun l h => hmiss (hregular.mp (h.1 hnot)).1
    rw [hturn]
    refine ⟨False.elim, fun h => ?_⟩
    split at h
    · exact hnew _ h
    · exact hnew _ h
  · rw [hturn, if_neg (findFqdn_found_iff.mp hfound).1]
    have hsame := eachNew_congr (Regular db a) (offers (db.map (·.fqdn)) s.hasCname rest)
      fun later => (hcached later).symm
    constructor
    · intro h
      have hpair : PairGood db a (sa, o.name) :=
        updateLoop_added h _ (by rw [hadded]; exact List.mem_append_right _ List.mem_cons_self)
      refine ⟨fun _ => hregular.mpr ⟨hfound, hpair⟩, hsame.mpr ?_⟩
      rw [← hcname]
      exact (ih s' halong' (updateLoop_added h)).mp h
    · rintro ⟨hnew, hlater⟩
      have hpair := (hregular.mp (hnew hnot)).2
      refine (ih s' halong' ?_).mpr ?_
      · rw [hadded]
        exact List.forall_mem_append.mpr ⟨hgood, List.forall_mem_singleton.mpr hpair⟩
      · rw [hcname]
        exact hsame.mp hlater

/-- the loop over the records meets the purpose when the offers they come with are regular, those
apart that nothing is added for -/
theorem updateLoop_meets_iff {rest : List Rr} (hrest : ∀ rr ∈ rest, rr ∈ a ∧ rr.Parsed) :
    ∀ s, Along db s → (∀ p ∈ s.added, PairGood db a p) →
      ((updateLoop s rest).Meets (PairGood db a) ↔
        EachNew (Regular db a) (Cached s.cache)
          (offers (db.map (·.fqdn)) s.hasCname rest)) := by
  induction rest with
  | nil => exact fun s _ hgood => ⟨fun _ => trivial, fun _ => hgood⟩
  | cons rr rest ih =>
    intro s halong hgood
    obtain ⟨⟨hrr, hparsed⟩, hrest⟩ := List.forall_mem_cons.mp hrest
    have ih := ih hrest
    unfold updateLoop updateRr offers
    rw [halong.fqdns]
    by_cases hlook : findFqdn (db.map (·.fqdn)) (cstr rr.name) ≠ .found ∧ s.hasCname = none
    · rw [if_pos hlook, if_pos hlook]
      exact ih s halong hgood
    rw [if_neg hlook, if_neg hlook]
    by_cases hcname : rr.type = typeCname
    · rw [if_pos hcname, if_pos hcname]
      by_cases hnone : s.hasCname = none
      · rw [if_neg (not_not.mpr hnone), if_neg (not_not.mpr hnone)]
        refine ih { s with hasCname := some (cstr rr.name, cstr rr.rdata) }
          (updateRr_along halong hparsed ?_) hgood
        unfold updateRr
        rw [halong.fqdns, if_neg hlook, if_pos hcname, if_neg (not_not.mpr hnone)]
      · rw [if_pos hnone, if_pos hnone]
        exact ⟨fun _ => trivial, fun _ => hgood⟩
    rw [if_neg hcname, if_neg hcname]
    by_cases htype : rr.type = typeA ∨ rr.type = typeAaaa
    · rw [if_pos htype, if_pos htype]
      obtain ⟨sa, hsa⟩ := hparsed.addressed htype
      rw [hsa]
      exact updateAddr_meets_iff halong hgood hrr hparsed htype hsa ih
    · rw [if_neg htype, if_neg htype]
      exact ih s halong hgood

end

/-- the answer section of a parsed reply -/
structure Answer where
  rrs : List Rr
  parsed : ∀ rr ∈ rrs, rr.Parsed

/-- what the parser accepts has one -/
theorem snoopReply_answer {m : Memory} {d : DnsData} (h : (snoopReply m).outcome = .done d) :
    ∃ a : Answer, a.rrs = d.a := ⟨⟨d.a, snoopReply_gives.2 d h⟩, rfl⟩

/-- a cache whose entries have names -/
structure Cache where
  entries : List CacheEntry
  ok : CacheOk entries

/-- the update follows no NULL pointer and adds nothing but names of the database that the answers
justify, exactly when every offer of the answers is regular that neither the cache nor an earlier
offer covers -/
theorem cacheUpdate_meets_iff (db : List FqdnEntry) (cache : Cache) (a : Answer) :
    (cacheUpdate db cache.entries a.rrs).Meets (PairGood db a.rrs) ↔
      EachNew (Regular db a.rrs) (Cached cache.entries)
        (offers (db.map (·.fqdn)) none a.rrs) :=
  updateLoop_meets_iff (fun rr hrr => ⟨hrr, a.parsed rr hrr⟩) ⟨db, cache.entries, none, false, []⟩
    ⟨rfl, cache.ok, fun _ h => nomatch h⟩ (fun _ h => nomatch h)

/-- an A record for `a.b.` -/
def longerRr : Rr := ⟨[97, 46, 98, 46, 0], typeA, 1, 60, 4, [], some (.inet [192, 0, 2, 1])⟩

/-- a CNAME record from `a.` to `c.` -/
def aliasRr : Rr := ⟨[97, 46, 0], typeCname, 1, 60, 3, [99, 46, 0], none⟩

def longerAnswer : Answer where
  rrs := [longerRr]
  parsed := List.forall_mem_singleton.mpr ⟨⟨[97, 46, 98, 46], rfl, rfl, by decide⟩, fun _ => ⟨_, rfl⟩⟩

/-- with `a.` in the database, `a.b.` is added; a CNAME record for `a.` before an A record of
another name makes the update follow a NULL pointer -/
theorem longer_name_added :
    ¬ (cacheUpdate [⟨[97, 46], []⟩] [] longerAnswer.rrs).Meets
        (PairGood [⟨[97, 46], []⟩] longerAnswer.rrs)
    ∧ cacheUpdate [⟨[97, 46], []⟩] [] [aliasRr, { longerRr with name := [100, 46, 0] }] = .crash := by
  refine ⟨fun h => ?_, by decide⟩
  obtain ⟨⟨e, he, hsame⟩, _⟩ := h (.inet [192, 0, 2, 1], [97, 46, 98, 46]) (by decide)
  rw [List.mem_singleton.mp he] at hsame
  exact absurd hsame (by unfold SameName; decide)

end Spmd
