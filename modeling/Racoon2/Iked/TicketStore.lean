import Mathlib.Data.List.GetD
import Racoon2.Iked.RedirectClient
import Racoon2.Iked.Ticket

/-!
# The ticket store on disk

The initiator keeps a ticket for each gateway in a file of its own.  A save writes a new file and renames
it over the old one, so that it may fail, or the process may end, between any two of its calls.

* `StoreFile`, `FsOp`      files and what is done to them;
* `storeRecord`            the octets of a file;
* `r2ticketStoreSave`, `r2ticketStoreLoad`, `r2ticketStoreClear`    the store;
* `storeMigrateDisk`       `ike_msg_resume_store_migrate` on files;
* `load_record`            a file that was written is read back;
* `Since`, `Since.powerCut`    what the machine finds when it starts again;
* `ticket_store_refines`   every run, with power cuts and files of others, is a run on a map.

What was appended to a file lasts from its fsync on.  The directory is never synced: a power cut may undo
a rename or an unlink that returned, each for itself, back to the last start of the machine.
-/

set_option linter.unusedVariables false

namespace Redirect
open Bytes
open Ikev2 (TicketState r2tickPack r2tickUnpack)

/-! ## files -/

/-- a name of the directory; a link or a device is not regular -/
structure StoreFile where
  data : Bytes
  regular : Bool
  uid : Nat
  mode : Nat
  synced : Bool
  deriving DecidableEq, Repr

abbrev StoreDir := Bytes → Option StoreFile

inductive FsOp where
  | create (name : Bytes) (uid mode : Nat)
  | chmod (name : Bytes) (mode : Nat)
  | append (name data : Bytes)
  | sync (name : Bytes)
  | rename (name name' : Bytes)
  | unlink (name : Bytes)
  deriving DecidableEq, Repr

def StoreDir.change (dir : StoreDir) (name : Bytes) (f : StoreFile → StoreFile) : StoreDir :=
  Function.update dir name ((dir name).map f)

def FsOp.exec (dir : StoreDir) : FsOp → StoreDir
  | .create name uid mode => Function.update dir name (some ⟨[], true, uid, mode, false⟩)
  | .chmod name mode => dir.change name fun f => { f with mode := mode }
  | .append name data => dir.change name fun f => { f with data := f.data ++ data, synced := false }
  | .sync name => dir.change name fun f => { f with synced := true }
  | .rename name name' => Function.update (Function.update dir name' (dir name)) name none
  | .unlink name => Function.update dir name none

/-! ## names -/

/-- a hex digit -/
def hexDigit (n : Nat) : UInt8 := if n < 10 then UInt8.ofNat (48 + n) else UInt8.ofNat (87 + n)

/-- the string that `ike_msg_resume_store_key` makes of an address -/
def hexKey (ap : Bytes) : Bytes :=
  ap.flatMap fun b => [hexDigit (b.toNat / 16), hexDigit (b.toNat % 16)]

/-- R2TICK_STORE_PREFIX, `r2tkt-` -/
def storeName : Bytes := [114, 50, 116, 107, 116, 45]

/-- `r2tick_store_path`, below the directory -/
def r2tickStorePath (key : Bytes) : Option Bytes := if key = [] then none else some (storeName ++ key)

/-- the name of the file of a gateway -/
def finalName (key : Bytes) : Bytes := storeName ++ hexKey key

/-- the name that `mkstemp` makes of a path -/
def tempName (path suffix : Bytes) : Bytes := path ++ 46 :: suffix

/-! ## the store -/

/-- R2TICK_STORE_VERSION -/
def storeVersion : UInt8 := 1
/-- the most that is read of a ticket, and of its state -/
def storeMax : Nat := 2 ^ 20

/-- the file of a ticket -/
def storeRecord (ticketLt pack : Bytes) : Bytes :=
  storeVersion :: (enc32 ticketLt.length ++ (ticketLt ++ pack))

/-- what the calls of a save do: `mkdir`, `mkstemp`, and how many of the calls on the file succeed.
The next one fails behind `part` of its octets, and then `unlink` is called, or the process ends there -/
structure SaveIo where
  mkdir : Bool
  suffix : Option Bytes
  calls : Nat
  part : Bytes
  unlink : Bool
  killed : Bool

/-- the calls on the file -/
def saveOps (tmp path ticketLt pack : Bytes) : List FsOp :=
  [.chmod tmp 0o600, .append tmp (storeVersion :: enc32 ticketLt.length), .append tmp ticketLt,
    .append tmp pack, .sync tmp, .rename tmp path]

/-- `r2ticket_store_save`: the directory, and whether it returns 0 -/
def r2ticketStoreSave (euid : Nat) (dir : StoreDir) (key ticketLt : Bytes) (st : TicketState)
    (io : SaveIo) :
    StoreDir × Bool :=
  if ticketLt = [] ∨ 2 ^ 32 ≤ ticketLt.length ∨ io.mkdir = false then (dir, false)
  else
    match r2tickPack st, r2tickStorePath key, io.suffix with
    | some pack, some path, some suffix =>
      let tmp := tempName path suffix
      let ops := saveOps tmp path ticketLt pack
      let dir' := (ops.take io.calls).foldl FsOp.exec (FsOp.exec dir (.create tmp euid 0o600))
      if io.killed then (dir', false)
      else if ops.length ≤ io.calls then (dir', true)
      else if io.unlink then (FsOp.exec dir' (.unlink tmp), false)
      else (FsOp.exec dir' (.append tmp io.part), false)
    | _, _, _ => (dir, false)

/-- the file may be read: `O_NOFOLLOW` and the checks on `fstat` -/
def StoreFile.trusted (euid : Nat) (f : StoreFile) : Bool :=
  f.regular && f.uid == euid && f.mode % 64 == 0

/-- the octets of a file, read -/
def readRecord (b : Bytes) : Option (Bytes × TicketState) :=
  if b.length < 5 then none
  else if byteAt b 0 ≠ storeVersion then none
  else
    let tlen := be32 b 1
    if tlen = 0 ∨ storeMax < tlen then none
    else if b.length < 5 + tlen then none
    else if storeMax < b.length - tlen - 5 then none
    else (r2tickUnpack (b.drop (5 + tlen))).map fun st => (slice b 5 tlen, st)

/-- `r2ticket_store_load` -/
def r2ticketStoreLoad (euid : Nat) (dir : StoreDir) (key : Bytes) : Option (Bytes × TicketState) :=
  ((r2tickStorePath key).bind dir).bind fun f => if f.trusted euid then readRecord f.data else none

/-- `r2ticket_store_clear`; `ok` says if `unlink` succeeds -/
def r2ticketStoreClear (dir : StoreDir) (key : Bytes) (ok : Bool) : StoreDir :=
  match r2tickStorePath key with
  | some path => if ok then FsOp.exec dir (.unlink path) else dir
  | none => dir

/-- `ike_msg_resume_store_migrate` -/
def storeMigrateDisk (euid : Nat) (dir : StoreDir) (oldgw newgw : Address) (io : SaveIo)
    (ok : Bool) : StoreDir :=
  match storeKey oldgw, storeKey newgw with
  | some oldkey, some newkey =>
    if hexKey oldkey = hexKey newkey then dir
    else
      match r2ticketStoreLoad euid dir (hexKey oldkey) with
      | none => dir
      | some (ticketLt, st) =>
        if 4 < ticketLt.length then
          match r2ticketStoreSave euid dir (hexKey newkey) ticketLt st io with
          | (dir, true) => r2ticketStoreClear dir (hexKey oldkey) ok
          | (dir, false) => dir
        else dir
  | _, _ => dir

/-! ## runs -/

/-- a file that is not the daemon's own: no regular file, of another user, or open to others -/
def ForeignFile (euid : Nat) : Type := { f : StoreFile // f.trusted euid = false }

/-- what happens to the store -/
inductive StoreEvent (euid : Nat) where
  | save (gw : Address) (ticketLt : Bytes) (st : TicketState) (io : SaveIo)
  | clear (gw : Address) (ok : Bool)
  | migrate (oldgw newgw : Address) (io : SaveIo) (ok : Bool)
  | plant (name : Bytes) (f : ForeignFile euid)

def StoreDir.step (euid : Nat) (dir : StoreDir) : StoreEvent euid → StoreDir
  | .save gw ticketLt st io =>
    match storeKey gw with
    | some key => (r2ticketStoreSave euid dir (hexKey key) ticketLt st io).1
    | none => dir
  | .clear gw ok =>
    match storeKey gw with
    | some key => r2ticketStoreClear dir (hexKey key) ok
    | none => dir
  | .migrate oldgw newgw io ok => storeMigrateDisk euid dir oldgw newgw io ok
  | .plant name f => Function.update dir name (some f.1)

/-- a state, and those before it since the machine started, the last one first -/
structure Since (σ : Type) where
  now : σ
  past : List σ

namespace Since
variable {σ τ : Type}

/-- the state of `n` events ago -/
def ago (s : Since σ) (n : Nat) : σ := (s.now :: s.past).getD n s.now

def next (s : Since σ) (x : σ) : Since σ := ⟨x, s.now :: s.past⟩

def map (f : σ → τ) (s : Since σ) : Since τ := ⟨f s.now, s.past.map f⟩

end Since

/-- what is left when the machine stops: of how many events ago the entry of a name is, the octets of a
file that was not synced, and the files that were being written, which have a dot in their names -/
structure PowerCut where
  ago : Bytes → Nat
  junk : Bytes → Bytes
  litter : Bytes → Option StoreFile

def PowerCut.entry (cut : PowerCut) (s : Since StoreDir) (name : Bytes) : Option StoreFile :=
  if 46 ∈ name then cut.litter name
  else
    (s.ago (cut.ago name) name).map fun f => if f.synced then f else { f with data := cut.junk name }

def Since.powerCut (s : Since StoreDir) (cut : PowerCut) : Since StoreDir := ⟨cut.entry s, []⟩

inductive DiskEvent (euid : Nat) where
  | store (e : StoreEvent euid)
  | powerCut (cut : PowerCut)

def diskStep (euid : Nat) (s : Since StoreDir) : DiskEvent euid → Since StoreDir
  | .store e => s.next (s.now.step euid e)
  | .powerCut cut => s.powerCut cut

/-! ## the map -/

/-- the tickets by the address of the gateway -/
abbrev Tickets := Bytes → Option (Bytes × TicketState)

/-- the save comes to its rename -/
def SaveIo.renames (io : SaveIo) (ticketLt : Bytes) (st : TicketState) : Bool :=
  decide (ticketLt ≠ [] ∧ ticketLt.length < 2 ^ 32 ∧ st.Fits) && io.mkdir && io.suffix.isSome
    && decide (6 ≤ io.calls)

/-- what a load gives of a save: a ticket of more than 2^20 octets is not read again -/
def kept (ticketLt : Bytes) (st : TicketState) : Option (Bytes × TicketState) :=
  if ticketLt.length ≤ storeMax then some (ticketLt, st.normal) else none

def Tickets.migrate (t : Tickets) (oldkey newkey : Bytes) (io : SaveIo) (ok : Bool) : Tickets :=
  match t oldkey with
  | none => t
  | some (ticketLt, st) =>
    if 4 < ticketLt.length ∧ io.renames ticketLt st = true then
      let t' : Tickets := Function.update t newkey (some (ticketLt, st))
      if io.killed = false ∧ ok = true then Function.update t' oldkey none else t'
    else t

/-- the ticket goes with its gateway -/
def Tickets.migrateGw (t : Tickets) (oldgw newgw : Address) (io : SaveIo) (ok : Bool) : Tickets :=
  match storeKey oldgw, storeKey newgw with
  | some oldkey, some newkey => if oldkey = newkey then t else t.migrate oldkey newkey io ok
  | _, _ => t

def Tickets.step {euid : Nat} (t : Tickets) : StoreEvent euid → Tickets
  | .save gw ticketLt st io =>
    match storeKey gw with
    | some key => if io.renames ticketLt st then Function.update t key (kept ticketLt st) else t
    | none => t
  | .clear gw ok =>
    match storeKey gw with
    | some key => if ok then Function.update t key none else t
    | none => t
  | .migrate oldgw newgw io ok => t.migrateGw oldgw newgw io ok
  | .plant name _ => fun key => if finalName key = name then none else t key

/-- a power cut sets the gateways back, each for itself -/
def ticketsStep {euid : Nat} (s : Since Tickets) : DiskEvent euid → Since Tickets
  | .store e => s.next (s.now.step e)
  | .powerCut cut => ⟨fun key => s.ago (cut.ago (finalName key)) key, []⟩

/-- the tickets that the directory holds -/
def tickets (euid : Nat) (dir : StoreDir) : Tickets :=
  fun key => r2ticketStoreLoad euid dir (hexKey key)

/-! ## names do not meet -/

theorem hexDigit_inj : ∀ m, m < 16 → ∀ n, n < 16 → hexDigit m = hexDigit n → m = n := by decide

theorem hexDigit_ne_dot : ∀ n, n < 16 → hexDigit n ≠ 46 := by decide

theorem hexKey_cons (b : UInt8) (ap : Bytes) :
    hexKey (b :: ap) = hexDigit (b.toNat / 16) :: hexDigit (b.toNat % 16) :: hexKey ap := rfl

theorem hexKey_injective : Function.Injective hexKey := by
  intro as
  induction as with
  | nil =>
    intro bs h
    cases bs with
    | nil => rfl
    | cons b bs => cases h
  | cons a as ih =>
    intro bs h
    cases bs with
    | nil => cases h
    | cons b bs =>
      rw [hexKey_cons, hexKey_cons] at h
      obtain ⟨hhigh, h⟩ := List.cons.inj h
      obtain ⟨hlow, hrest⟩ := List.cons.inj h
      have ha := a.toNat_lt
      have hb := b.toNat_lt
      have hhigh := hexDigit_inj _ (by omega) _ (by omega) hhigh
      have hlow := hexDigit_inj _ (by omega) _ (by omega) hlow
      have hab : a = b := UInt8.toNat_inj.mp (by omega)
      rw [hab, ih hrest]

theorem dot_not_mem_hexKey (ap : Bytes) : 46 ∉ hexKey ap := by
  intro h
  obtain ⟨b, -, hb⟩ := List.mem_flatMap.mp h
  have hlt := b.toNat_lt
  rcases List.mem_cons.mp hb with hb | hb
  · exact hexDigit_ne_dot _ (by omega) hb.symm
  · exact hexDigit_ne_dot _ (by omega) (List.mem_singleton.mp hb).symm

theorem finalName_injective : Function.Injective finalName := fun _ _ h =>
  hexKey_injective (List.append_cancel_left h)

theorem dot_not_mem_finalName (key : Bytes) : 46 ∉ finalName key := by
  intro h
  rcases List.mem_append.mp h with h | h
  · revert h
    decide
  · exact dot_not_mem_hexKey key h

/-- a file that is being written has a dot in its name -/
theorem tempName_ne_finalName (path suffix key : Bytes) : finalName key ≠ tempName path suffix := by
  intro h
  refine dot_not_mem_finalName key ?_
  rw [h]
  exact List.mem_append_right path List.mem_cons_self

theorem hexKey_eq_nil {key : Bytes} : hexKey key = [] ↔ key = [] := by
  cases key with
  | nil => exact ⟨fun _ => rfl, fun _ => rfl⟩
  | cons b ap => exact ⟨fun h => (by cases h), fun h => (by cases h)⟩

theorem storePath_hexKey {key : Bytes} (h : key ≠ []) :
    r2tickStorePath (hexKey key) = some (finalName key) :=
  if_neg fun hnil => h (hexKey_eq_nil.mp hnil)

/-! ## a record is read back -/

theorem number_length (w n : Nat) : ((Codec.number w).write n).length = w := encBe_length w n

theorem field_length (w : Nat) (f : Option Bytes) :
    ((Codec.field w).write f).length = w + (f.getD []).length := by
  show (encBe w (f.getD []).length ++ f.getD []).length = _
  rw [List.length_append, encBe_length]

theorem both_length {α β : Type} (c : Codec α) (d : Codec β) (a : α) (b : β) :
    ((Codec.both c d).write (a, b)).length = (c.write a).length + (d.write b).length :=
  List.length_append

theorem pack_length {st : TicketState} {pack : Bytes} (h : r2tickPack st = some pack) :
    pack.length ≤ storeMax := by
  unfold r2tickPack at h
  by_cases hfits : st.Fits
  · rw [if_pos hfits] at h
    obtain ⟨⟨hsa, hidi, hidr⟩, hskd⟩ := hfits
    rw [← Option.some.inj h]
    unfold Ikev2.ticketCodec TicketState.fields
    rw [both_length, both_length, both_length, both_length, both_length, both_length, both_length,
      both_length, number_length, number_length, number_length, number_length, field_length, field_length,
      field_length, field_length, number_length]
    show _ ≤ 1048576
    omega
  · rw [if_neg hfits] at h
    cases h

theorem load_record {ticketLt pack : Bytes} {st : TicketState} (hpack : r2tickPack st = some pack)
    (hne : ticketLt ≠ []) (hlen : ticketLt.length < 2 ^ 32) :
    readRecord (storeRecord ticketLt pack) = kept ticketLt st := by
  have hlength : (storeRecord ticketLt pack).length = 5 + ticketLt.length + pack.length := by
    show (enc32 ticketLt.length ++ (ticketLt ++ pack)).length + 1 = _
    rw [List.length_append, enc32_length, List.length_append]
    omega
  have htlen : be32 (storeRecord ticketLt pack) 1 = ticketLt.length := by
    have happend := be32_append_right [storeVersion] (enc32 ticketLt.length ++ (ticketLt ++ pack)) 0
    rw [be32_enc32 hlen] at happend
    exact happend
  have hsplit : storeRecord ticketLt pack = (storeVersion :: enc32 ticketLt.length)
      ++ (ticketLt ++ pack) := rfl
  have hpos : ticketLt.length ≠ 0 := fun h => hne (List.length_eq_zero_iff.mp h)
  have hpackLength := pack_length hpack
  have hversion : byteAt (storeRecord ticketLt pack) 0 = storeVersion := rfl
  unfold readRecord kept
  rw [if_neg (by omega), if_neg (not_not.mpr hversion)]
  dsimp only
  rw [htlen]
  by_cases hmax : ticketLt.length ≤ storeMax
  · have hdrop : (storeRecord ticketLt pack).drop (5 + ticketLt.length) = pack := by
      rw [hsplit, ← List.append_assoc]
      exact List.drop_left' (by rw [List.length_append]; rfl)
    have hslice : slice (storeRecord ticketLt pack) 5 ticketLt.length = ticketLt := by
      rw [hsplit]
      have happend := slice_append_right (storeVersion :: enc32 ticketLt.length) (ticketLt ++ pack)
        0 ticketLt.length
      rw [slice_zero_append ticketLt pack ticketLt.length rfl] at happend
      exact happend
    rw [if_neg (by omega), if_neg (by omega), if_neg (by omega), if_pos hmax, hdrop, hslice,
      Ikev2.unpack_pack hpack]
    rfl
  · rw [if_pos (.inr (Nat.lt_of_not_le hmax)), if_neg hmax]

/-- what a record that is read has in it -/
theorem readRecord_some {b ticketLt : Bytes} {st : TicketState}
    (h : readRecord b = some (ticketLt, st)) :
    ticketLt ≠ [] ∧ ticketLt.length ≤ storeMax ∧ st.Fits ∧ st.normal = st := by
  unfold readRecord at h
  by_cases hshort : b.length < 5
  · rw [if_pos hshort] at h
    cases h
  rw [if_neg hshort] at h
  by_cases hversion : byteAt b 0 ≠ storeVersion
  · rw [if_pos hversion] at h
    cases h
  rw [if_neg hversion] at h
  dsimp only at h
  by_cases htlen : be32 b 1 = 0 ∨ storeMax < be32 b 1
  · rw [if_pos htlen] at h
    cases h
  rw [if_neg htlen] at h
  by_cases hcut : b.length < 5 + be32 b 1
  · rw [if_pos hcut] at h
    cases h
  rw [if_neg hcut] at h
  by_cases hlong : storeMax < b.length - be32 b 1 - 5
  · rw [if_pos hlong] at h
    cases h
  rw [if_neg hlong] at h
  obtain ⟨st', hst, heq⟩ := Option.map_eq_some_iff.mp h
  obtain ⟨hticket, rfl⟩ := Prod.mk.inj heq
  have hlength : ticketLt.length = be32 b 1 := by
    rw [← hticket]
    exact slice_length b 5 (be32 b 1) (Nat.le_of_not_lt hcut)
  obtain ⟨hcanonical, hpack⟩ := Ikev2.unpack_iff.mp hst
  have hfits : st'.Fits := by
    by_contra hfits
    unfold r2tickPack at hpack
    rw [if_neg hfits] at hpack
    cases hpack
  refine ⟨fun hnil => ?_, ?_, hfits, ?_⟩
  · rw [hnil] at hlength
    exact htlen (.inl hlength.symm)
  · rw [hlength]
    exact Nat.le_of_not_lt fun h => htlen (.inr h)
  · obtain ⟨hsa, hidi, hidr, hskd⟩ := hcanonical
    show { st' with sa := _, idi := _, idr := _, skD := _ } = st'
    unfold Ikev2.present
    rw [if_neg hsa, if_neg hidi, if_neg hidr, if_neg hskd]

/-! ## what a save leaves -/

/-- the file of a save -/
def savedFile (euid : Nat) (ticketLt pack : Bytes) : StoreFile :=
  ⟨storeRecord ticketLt pack, true, euid, 0o600, true⟩

theorem change_update (dir : StoreDir) (name : Bytes) (f : StoreFile) (g : StoreFile → StoreFile) :
    StoreDir.change (Function.update dir name (some f)) name g
      = Function.update dir name (some (g f)) := by
  unfold StoreDir.change
  rw [Function.update_self, Function.update_idem]
  rfl

/-- the call is on the file `tmp`, which stays where it is -/
def FsOp.WritesTo (tmp : Bytes) (op : FsOp) : Prop :=
  ∃ g : StoreFile → StoreFile, ∀ dir : StoreDir, op.exec dir = dir.change tmp g

theorem foldl_writesTo {dir : StoreDir} {tmp : Bytes} (ops : List FsOp)
    (h : ∀ op ∈ ops, op.WritesTo tmp) :
    ∀ f, ∃ f', ops.foldl FsOp.exec (Function.update dir tmp (some f))
      = Function.update dir tmp (some f') := by
  induction ops with
  | nil => exact fun f => ⟨f, rfl⟩
  | cons op ops ih =>
    intro f
    obtain ⟨g, hg⟩ := h op List.mem_cons_self
    rw [List.foldl_cons, hg, change_update]
    exact ih (fun op' hop' => h op' (List.mem_cons_of_mem op hop')) (g f)

theorem saveOps_writesTo {tmp path ticketLt pack : Bytes} {k : Nat} (hk : k < 6) :
    ∀ op ∈ (saveOps tmp path ticketLt pack).take k, op.WritesTo tmp := by
  intro op hop
  have hfive : op ∈ (saveOps tmp path ticketLt pack).take 5 := by
    have htake : (saveOps tmp path ticketLt pack).take k
        = ((saveOps tmp path ticketLt pack).take 5).take k := by
      rw [List.take_take, Nat.min_eq_left (Nat.le_of_lt_succ hk)]
    rw [htake] at hop
    exact List.mem_of_mem_take hop
  simp only [saveOps, List.take_succ_cons, List.take_zero, List.mem_cons, List.not_mem_nil,
    or_false] at hfive
  rcases hfive with rfl | rfl | rfl | rfl | rfl <;> exact ⟨_, fun _ => rfl⟩

/-- the calls of a save that fails or ends before its rename: only the temporary file -/
theorem saveOps_early (euid : Nat) (dir : StoreDir) {tmp path ticketLt pack : Bytes} {k : Nat} (hk : k < 6) :
    ∃ f, ((saveOps tmp path ticketLt pack).take k).foldl FsOp.exec
      (FsOp.exec dir (.create tmp euid 0o600))
      = Function.update dir tmp (some f) :=
  foldl_writesTo _ (saveOps_writesTo hk) _

/-- all the calls of a save -/
theorem saveOps_all (euid : Nat) (dir : StoreDir) {tmp path ticketLt pack : Bytes} {k : Nat} (hk : 6 ≤ k)
    (hne : path ≠ tmp) :
    ((saveOps tmp path ticketLt pack).take k).foldl FsOp.exec (FsOp.exec dir (.create tmp euid 0o600))
      = Function.update (Function.update dir path (some (savedFile euid ticketLt pack))) tmp none := by
  have hfile : ([.chmod tmp 0o600, .append tmp (storeVersion :: enc32 ticketLt.length),
      .append tmp ticketLt,
      .append tmp pack, .sync tmp] : List FsOp).foldl FsOp.exec
        (FsOp.exec dir (.create tmp euid 0o600))
      = Function.update dir tmp (some (savedFile euid ticketLt pack)) := by
    simp only [List.foldl_cons, List.foldl_nil, FsOp.exec, change_update]
    unfold savedFile storeRecord
    rw [List.nil_append, List.append_assoc]
    rfl
  have hall : (saveOps tmp path ticketLt pack).take k = [.chmod tmp 0o600,
      .append tmp (storeVersion :: enc32 ticketLt.length), .append tmp ticketLt, .append tmp pack,
      .sync tmp] ++ [.rename tmp path] := List.take_of_length_le hk
  rw [hall, List.foldl_append, hfile]
  show Function.update (Function.update (Function.update dir tmp _) path
    (Function.update dir tmp _ tmp)) tmp none = _
  rw [Function.update_self, Function.update_comm hne.symm, Function.update_idem]

/-- the two directories have the same files for the gateways -/
def SameFinals (dir dir' : StoreDir) : Prop := ∀ key, dir' (finalName key) = dir (finalName key)

theorem sameFinals_temp (dir : StoreDir) (path suffix : Bytes) (f : Option StoreFile) :
    SameFinals dir (Function.update dir (tempName path suffix) f) := by
  intro key
  rw [Function.update_of_ne (tempName_ne_finalName path suffix key)]

/-- a save that does not come to its rename -/
theorem save_early (euid : Nat) (dir : StoreDir) {key ticketLt : Bytes} {st : TicketState} {io : SaveIo}
    (hkey : key ≠ []) (h : io.renames ticketLt st = false) :
    (r2ticketStoreSave euid dir (hexKey key) ticketLt st io).2 = false ∧
      SameFinals dir (r2ticketStoreSave euid dir (hexKey key) ticketLt st io).1 := by
  have hself : SameFinals dir dir := fun _ => rfl
  unfold r2ticketStoreSave
  by_cases hguard : ticketLt = [] ∨ 2 ^ 32 ≤ ticketLt.length ∨ io.mkdir = false
  · rw [if_pos hguard]
    exact ⟨rfl, hself⟩
  rw [if_neg hguard, storePath_hexKey hkey]
  cases hpack : r2tickPack st with
  | none => exact ⟨rfl, hself⟩
  | some pack =>
    cases hsuffix : io.suffix with
    | none => exact ⟨rfl, hself⟩
    | some suffix =>
      dsimp only
      have hfits : st.Fits := by
        by_contra hfits
        unfold r2tickPack at hpack
        rw [if_neg hfits] at hpack
        cases hpack
      have hcalls : io.calls < 6 := by
        by_contra hcalls
        have hrenames : io.renames ticketLt st = true := by
          unfold SaveIo.renames
          rw [hsuffix, decide_eq_true (p := 6 ≤ io.calls) (by omega),
            decide_eq_true (p := ticketLt ≠ [] ∧ ticketLt.length < 2 ^ 32 ∧ st.Fits)
              ⟨fun h => hguard (.inl h), by omega, hfits⟩,
                (Bool.not_eq_false _).mp fun h => hguard (.inr (.inr h))]
          rfl
        rw [hrenames] at h
        cases h
      obtain ⟨f, hf⟩ := saveOps_early euid dir hcalls
      rw [hf]
      have hlen : ¬ (saveOps (tempName (finalName key) suffix) (finalName key) ticketLt pack).length
          ≤ io.calls :=
        Nat.not_le_of_lt hcalls
      cases io.killed with
      | true => exact ⟨rfl, sameFinals_temp dir _ suffix _⟩
      | false =>
        rw [if_neg (by decide), if_neg hlen]
        by_cases hunlink : io.unlink = true
        · rw [if_pos hunlink]
          refine ⟨rfl, ?_⟩
          show SameFinals dir (Function.update (Function.update dir _ _) _ none)
          rw [Function.update_idem]
          exact sameFinals_temp dir _ suffix _
        · rw [if_neg hunlink]
          refine ⟨rfl, ?_⟩
          show SameFinals dir (StoreDir.change _ _ _)
          rw [change_update]
          exact sameFinals_temp dir _ suffix _

/-- a save that comes to its rename: the file of the gateway is the new one, and no other one
changes -/
theorem save_renames (euid : Nat) (dir : StoreDir) {key ticketLt : Bytes} {st : TicketState} {io : SaveIo}
    (hkey : key ≠ []) (h : io.renames ticketLt st = true) :
    ∃ dir' pack, r2tickPack st = some pack ∧ dir' (finalName key)
      = some (savedFile euid ticketLt pack) ∧
      (∀ key', key' ≠ key → dir' (finalName key') = dir (finalName key')) ∧
      r2ticketStoreSave euid dir (hexKey key) ticketLt st io = (dir', !io.killed) := by
  unfold SaveIo.renames at h
  rw [Bool.and_eq_true, Bool.and_eq_true, Bool.and_eq_true, decide_eq_true_iff,
    decide_eq_true_iff] at h
  obtain ⟨⟨⟨⟨hne, hlen, hfits⟩, hmkdir⟩, hsuffix⟩, hcalls⟩ := h
  obtain ⟨suffix, hsuffix⟩ := Option.isSome_iff_exists.mp hsuffix
  have hpack : r2tickPack st = some (Ikev2.ticketCodec.write st.fields) := if_pos hfits
  have hguard : ¬ (ticketLt = [] ∨ 2 ^ 32 ≤ ticketLt.length ∨ io.mkdir = false) := by
    rintro (h | h | h)
    · exact hne h
    · omega
    · rw [hmkdir] at h
      cases h
  have hopslen : (saveOps (tempName (finalName key) suffix) (finalName key) ticketLt
      (Ikev2.ticketCodec.write st.fields)).length ≤ io.calls := hcalls
  refine ⟨Function.update (Function.update dir (finalName key)
      (some (savedFile euid ticketLt (Ikev2.ticketCodec.write st.fields))))
        (tempName (finalName key) suffix) none,
    _, hpack, ?_, ?_, ?_⟩
  · rw [Function.update_of_ne (tempName_ne_finalName _ _ _), Function.update_self]
  · intro key' hne'
    rw [Function.update_of_ne (tempName_ne_finalName _ _ _),
      Function.update_of_ne (fun h => hne' (finalName_injective h))]
  · unfold r2ticketStoreSave
    rw [if_neg hguard, storePath_hexKey hkey, hpack, hsuffix]
    dsimp only
    rw [saveOps_all euid dir hcalls (tempName_ne_finalName _ _ _), if_pos hopslen]
    cases io.killed with
    | true => rfl
    | false => rfl

/-! ## the tickets of a directory -/

/-- a file that may be read was synced -/
def Synced (euid : Nat) (dir : StoreDir) : Prop :=
  ∀ key f, dir (finalName key) = some f → f.trusted euid = true → f.synced = true

/-- a file, read -/
def StoreFile.load (euid : Nat) (f : StoreFile) : Option (Bytes × TicketState) :=
  if f.trusted euid then readRecord f.data else none

theorem load_untrusted {euid : Nat} {f : StoreFile} (h : f.trusted euid = false) :
    f.load euid = none := by
  unfold StoreFile.load
  rw [h]
  rfl

theorem tickets_eq {key : Bytes} (euid : Nat) (dir : StoreDir) (hkey : key ≠ []) :
    tickets euid dir key = (dir (finalName key)).bind (StoreFile.load euid) := by
  unfold tickets r2ticketStoreLoad
  rw [storePath_hexKey hkey]
  rfl

theorem tickets_nil (euid : Nat) (dir : StoreDir) : tickets euid dir [] = none := rfl

theorem tickets_congr {euid : Nat} {dir dir' : StoreDir} {key : Bytes}
    (h : dir' (finalName key) = dir (finalName key)) :
    tickets euid dir' key = tickets euid dir key := by
  by_cases hkey : key = []
  · rw [hkey, tickets_nil, tickets_nil]
  · rw [tickets_eq euid dir' hkey, tickets_eq euid dir hkey, h]

theorem sameFinals_tickets {euid : Nat} {dir dir' : StoreDir} (h : SameFinals dir dir')
    (hsync : Synced euid dir) :
    Synced euid dir' ∧ tickets euid dir' = tickets euid dir := by
  refine ⟨fun key f hf => hsync key f ((h key).symm.trans hf), ?_⟩
  funext key
  exact tickets_congr (h key)

theorem Since.ago_mem {σ : Type} (s : Since σ) (n : Nat) : s.ago n ∈ s.now :: s.past := by
  unfold Since.ago
  by_cases hn : n < (s.now :: s.past).length
  · rw [List.getD_eq_getElem _ _ hn]
    exact List.getElem_mem hn
  · rw [List.getD_eq_default _ _ (Nat.le_of_not_lt hn)]
    exact List.mem_cons_self

theorem Since.ago_map {σ τ : Type} (f : σ → τ) (s : Since σ) (n : Nat) :
    (s.map f).ago n = f (s.ago n) := by
  show ((s.now :: s.past).map f).getD n (f s.now) = _
  exact List.getD_map _ _ f

/-- every directory since the machine started -/
def AllSynced (euid : Nat) (s : Since StoreDir) : Prop := ∀ dir ∈ s.now :: s.past, Synced euid dir

/-- a file that lost what was not synced -/
theorem load_unsynced {euid : Nat} {f : StoreFile} (junk : Bytes)
    (hsync : f.trusted euid = true → f.synced = true) :
    StoreFile.load euid (if f.synced then f else { f with data := junk }) = f.load euid := by
  by_cases hs : f.synced = true
  · rw [if_pos hs]
  · have htrusted : f.trusted euid = false := by
      by_contra htrusted
      exact hs (hsync ((Bool.not_eq_false _).mp htrusted))
    have hjunk : StoreFile.trusted euid { f with data := junk } = false := htrusted
    rw [if_neg hs, load_untrusted htrusted, load_untrusted hjunk]

theorem powerCut_entry (cut : PowerCut) (s : Since StoreDir) (key : Bytes) :
    cut.entry s (finalName key) = (s.ago (cut.ago (finalName key)) (finalName key)).map fun f =>
      if f.synced then f else { f with data := cut.junk (finalName key) } :=
  if_neg (dot_not_mem_finalName key)

theorem powerCut_synced {euid : Nat} {s : Since StoreDir} (cut : PowerCut) (hsync : AllSynced euid s) :
    Synced euid (cut.entry s) := by
  intro key f hf htrusted
  rw [powerCut_entry] at hf
  obtain ⟨f', hf', rfl⟩ := Option.map_eq_some_iff.mp hf
  by_cases hs : f'.synced = true
  · rw [if_pos hs]
    exact hs
  · rw [if_neg hs] at htrusted
    exact absurd (hsync _ (s.ago_mem _) key f' hf' htrusted) hs

/-- the ticket of a gateway is the one of the entry that is left -/
theorem powerCut_tickets {euid : Nat} {s : Since StoreDir} (cut : PowerCut) (hsync : AllSynced euid s)
    (key : Bytes) :
    tickets euid (cut.entry s) key = tickets euid (s.ago (cut.ago (finalName key))) key := by
  by_cases hkey : key = []
  · rw [hkey, tickets_nil, tickets_nil]
  rw [tickets_eq euid _ hkey, tickets_eq euid _ hkey, powerCut_entry]
  have hago := hsync _ (s.ago_mem (cut.ago (finalName key))) key
  cases hf : s.ago (cut.ago (finalName key)) (finalName key) with
  | none => rfl
  | some f => exact load_unsynced _ (hago f hf)

/-- a new file for a gateway -/
theorem tickets_replace {euid : Nat} {dir dir' : StoreDir} {key : Bytes} {f : Option StoreFile}
    (hkey : key ≠ [])
    (hfile : dir' (finalName key) = f) (hothers : ∀ key', key' ≠ key → dir' (finalName key')
      = dir (finalName key'))
    (hf : ∀ f', f = some f' → f'.trusted euid = true → f'.synced = true) (hsync : Synced euid dir) :
    Synced euid dir' ∧
      tickets euid dir' = Function.update (tickets euid dir) key (f.bind (StoreFile.load euid)) := by
  refine ⟨fun key' f' hf' htrusted => ?_, ?_⟩
  · by_cases hsame : key' = key
    · rw [hsame, hfile] at hf'
      exact hf f' hf' htrusted
    · rw [hothers key' hsame] at hf'
      exact hsync key' f' hf' htrusted
  · funext key'
    by_cases hsame : key' = key
    · rw [hsame, Function.update_self, tickets_eq euid dir' hkey, hfile]
    · rw [Function.update_of_ne hsame]
      exact tickets_congr (hothers key' hsame)

theorem savedFile_load {euid : Nat} {ticketLt pack : Bytes} {st : TicketState}
    (hpack : r2tickPack st = some pack)
    (hne : ticketLt ≠ []) (hlen : ticketLt.length < 2 ^ 32) :
    (savedFile euid ticketLt pack).load euid = kept ticketLt st := by
  have htrusted : (savedFile euid ticketLt pack).trusted euid = true := by
    show (true && euid == euid && 0o600 % 64 == 0) = true
    rw [beq_self_eq_true]
    rfl
  unfold StoreFile.load
  rw [htrusted, if_pos rfl]
  exact load_record hpack hne hlen

/-! ## the operations on the map -/

theorem storeKey_ne_nil {gw : Address} {key : Bytes} (h : storeKey gw = some key) : key ≠ [] := by
  rintro rfl
  cases gw with
  | inet a =>
    have hlen := a.2
    rw [show a.1 = [] from Option.some.inj h] at hlen
    cases hlen
  | inet6 a =>
    have hlen := a.2
    rw [show a.1 = [] from Option.some.inj h] at hlen
    cases hlen
  | other family => cases h

section
variable {euid : Nat} {dir : StoreDir} {key : Bytes}

theorem save_refines (ticketLt : Bytes) (st : TicketState) (io : SaveIo) (hkey : key ≠ [])
    (hsync : Synced euid dir) :
    Synced euid (r2ticketStoreSave euid dir (hexKey key) ticketLt st io).1 ∧
      tickets euid (r2ticketStoreSave euid dir (hexKey key) ticketLt st io).1
        = (if io.renames ticketLt st then Function.update (tickets euid dir) key (kept ticketLt st)
          else tickets euid dir) ∧
      (r2ticketStoreSave euid dir (hexKey key) ticketLt st io).2
        = (io.renames ticketLt st && !io.killed) := by
  cases hrenames : io.renames ticketLt st with
  | false =>
    obtain ⟨hret, hsame⟩ := save_early euid dir hkey hrenames
    obtain ⟨hsync', htickets⟩ := sameFinals_tickets hsame hsync
    rw [if_neg (by decide), hret]
    exact ⟨hsync', htickets, rfl⟩
  | true =>
    obtain ⟨dir', pack, hpack, hfile, hothers, hdone⟩ := save_renames euid dir hkey hrenames
    obtain ⟨hne, hlen⟩ : ticketLt ≠ [] ∧ ticketLt.length < 2 ^ 32 := by
      unfold SaveIo.renames at hrenames
      rw [Bool.and_eq_true, Bool.and_eq_true, Bool.and_eq_true, decide_eq_true_iff] at hrenames
      exact ⟨hrenames.1.1.1.1, hrenames.1.1.1.2.1⟩
    obtain ⟨hsync', htickets⟩ := tickets_replace hkey hfile hothers
      (fun f' hf' _ => by rw [← Option.some.inj hf']; rfl) hsync
    have hload : (some (savedFile euid ticketLt pack)).bind (StoreFile.load euid) = kept ticketLt st :=
      savedFile_load hpack hne hlen
    rw [hload] at htickets
    rw [if_pos rfl, hdone]
    exact ⟨hsync', htickets, (Bool.true_and _).symm⟩

theorem clear_refines (ok : Bool) (hkey : key ≠ []) (hsync : Synced euid dir) :
    Synced euid (r2ticketStoreClear dir (hexKey key) ok) ∧
      tickets euid (r2ticketStoreClear dir (hexKey key) ok)
        = (if ok then Function.update (tickets euid dir) key none else tickets euid dir) := by
  unfold r2ticketStoreClear
  rw [storePath_hexKey hkey]
  dsimp only
  cases ok with
  | false => exact ⟨hsync, rfl⟩
  | true =>
    exact tickets_replace hkey (Function.update_self (finalName key) none dir)
      (fun key' hne => Function.update_of_ne (fun h => hne (finalName_injective h)) none dir)
      (fun f' hf' _ => by cases hf') hsync

theorem migrate_refines (oldgw newgw : Address) (io : SaveIo) (ok : Bool) (hsync : Synced euid dir) :
    Synced euid (storeMigrateDisk euid dir oldgw newgw io ok) ∧
      tickets euid (storeMigrateDisk euid dir oldgw newgw io ok)
        = (tickets euid dir).migrateGw oldgw newgw io ok := by
  unfold storeMigrateDisk Tickets.migrateGw
  cases hold : storeKey oldgw with
  | none => exact ⟨hsync, rfl⟩
  | some oldkey =>
    cases hnew : storeKey newgw with
    | none => exact ⟨hsync, rfl⟩
    | some newkey =>
      dsimp only
      have hkeys : hexKey oldkey = hexKey newkey ↔ oldkey = newkey := hexKey_injective.eq_iff
      by_cases hsame : oldkey = newkey
      · rw [if_pos (hkeys.mpr hsame), if_pos hsame]
        exact ⟨hsync, rfl⟩
      rw [if_neg (fun h => hsame (hkeys.mp h)), if_neg hsame]
      unfold Tickets.migrate
      have hview : tickets euid dir oldkey = r2ticketStoreLoad euid dir (hexKey oldkey) := rfl
      rw [hview]
      cases hload : r2ticketStoreLoad euid dir (hexKey oldkey) with
      | none => exact ⟨hsync, rfl⟩
      | some r =>
        obtain ⟨ticketLt, st⟩ := r
        dsimp only
        by_cases hlen : 4 < ticketLt.length
        · -- a ticket that was read is one that can be saved
          have hread : ∃ b, readRecord b = some (ticketLt, st) := by
            unfold r2ticketStoreLoad at hload
            obtain ⟨f, -, hf⟩ := Option.bind_eq_some_iff.mp hload
            by_cases htrusted : f.trusted euid = true
            · rw [if_pos htrusted] at hf
              exact ⟨f.data, hf⟩
            · rw [if_neg htrusted] at hf
              cases hf
          obtain ⟨b, hb⟩ := hread
          obtain ⟨-, hmax, -, hnormal⟩ := readRecord_some hb
          have hkept : kept ticketLt st = some (ticketLt, st) := by
            unfold kept
            rw [if_pos hmax, hnormal]
          obtain ⟨hsync', htickets, hret⟩ := save_refines ticketLt st io (storeKey_ne_nil hnew) hsync
          rw [hkept] at htickets
          rw [if_pos hlen]
          generalize r2ticketStoreSave euid dir (hexKey newkey) ticketLt st io
            = saved at hsync' htickets hret
          obtain ⟨dir', ret⟩ := saved
          cases hrenames : io.renames ticketLt st with
          | false =>
            rw [hrenames] at htickets hret
            rw [if_neg (fun h => by cases h.2)]
            have hret' : ret = false := hret
            rw [hret']
            exact ⟨hsync', htickets⟩
          | true =>
            rw [hrenames] at htickets hret
            rw [if_pos ⟨hlen, rfl⟩]
            cases hkilled : io.killed with
            | true =>
              rw [hkilled] at hret
              have hret' : ret = false := hret
              rw [hret', if_neg (fun h => by cases h.1)]
              exact ⟨hsync', htickets⟩
            | false =>
              rw [hkilled] at hret
              have hret' : ret = true := hret
              rw [hret']
              obtain ⟨hsync'', hcleared⟩ := clear_refines ok (storeKey_ne_nil hold) hsync'
              refine ⟨hsync'', hcleared.trans ?_⟩
              have htickets' : tickets euid dir'
                  = Function.update (tickets euid dir) newkey (some (ticketLt, st)) :=
                htickets
              rw [htickets']
              cases ok with
              | true => rfl
              | false => rfl
        · rw [if_neg hlen, if_neg (fun h => hlen h.1)]
          exact ⟨hsync, rfl⟩

/-- one event, the machine running -/
theorem store_step (e : StoreEvent euid) (hsync : Synced euid dir) :
    Synced euid (dir.step euid e) ∧ tickets euid (dir.step euid e) = (tickets euid dir).step e := by
  cases e with
  | save gw ticketLt st io =>
    dsimp only [StoreDir.step, Tickets.step]
    cases hkey : storeKey gw with
    | none => exact ⟨hsync, rfl⟩
    | some key =>
      obtain ⟨hsync', htickets, -⟩ := save_refines ticketLt st io (storeKey_ne_nil hkey) hsync
      exact ⟨hsync', htickets⟩
  | clear gw ok =>
    dsimp only [StoreDir.step, Tickets.step]
    cases hkey : storeKey gw with
    | none => exact ⟨hsync, rfl⟩
    | some key => exact clear_refines ok (storeKey_ne_nil hkey) hsync
  | migrate oldgw newgw io ok => exact migrate_refines oldgw newgw io ok hsync
  | plant name f =>
    have hplanted : StoreDir.step euid dir (.plant name f) name = some f.1 := by
      show Function.update dir name (some f.1) name = _
      rw [Function.update_self]
    have hother : ∀ key, finalName key ≠ name →
        StoreDir.step euid dir (.plant name f) (finalName key) = dir (finalName key) := by
      intro key hne
      show Function.update dir name (some f.1) (finalName key) = _
      rw [Function.update_of_ne hne]
    refine ⟨fun key f' hf' htrusted => ?_, ?_⟩
    · by_cases hname : finalName key = name
      · rw [hname, hplanted] at hf'
        rw [← Option.some.inj hf', f.2] at htrusted
        cases htrusted
      · rw [hother key hname] at hf'
        exact hsync key f' hf' htrusted
    · funext key
      show _ = if finalName key = name then none else tickets euid dir key
      by_cases hname : finalName key = name
      · rw [if_pos hname]
        by_cases hkey : key = []
        · rw [hkey]
          rfl
        · rw [tickets_eq euid _ hkey, hname, hplanted]
          exact load_untrusted f.2
      · rw [if_neg hname]
        exact tickets_congr (hother key hname)

/-- one event -/
theorem disk_step {s : Since StoreDir} (e : DiskEvent euid) (hsync : AllSynced euid s) :
    AllSynced euid (diskStep euid s e)
      ∧ (diskStep euid s e).map (tickets euid) = ticketsStep (s.map (tickets euid)) e := by
  cases e with
  | store e =>
    obtain ⟨hnow, htickets⟩ := store_step e (hsync s.now List.mem_cons_self)
    refine ⟨fun dir hdir => ?_, ?_⟩
    · rcases List.mem_cons.mp hdir with rfl | hdir
      · exact hnow
      · exact hsync dir hdir
    · show Since.mk (tickets euid (s.now.step euid e)) _ = Since.mk _ _
      rw [htickets]
      rfl
  | powerCut cut =>
    refine ⟨fun dir hdir => ?_, ?_⟩
    · rw [List.mem_singleton.mp hdir]
      exact powerCut_synced cut hsync
    · show Since.mk (tickets euid (cut.entry s)) [] = Since.mk _ []
      congr 1
      funext key
      rw [Since.ago_map]
      exact powerCut_tickets cut hsync key

end

/-- Every run of saves, clears and migrations from an empty directory, whichever call fails, wherever
the process or the machine stops and whatever others put there, is a run on a map: a gateway has the
ticket of the last save that came to its rename, whole, or it has none; and a power cut sets a gateway
back to what it had after some event since the machine started -/
theorem ticket_store_refines (euid : Nat) (es : List (DiskEvent euid)) :
    (es.foldl (diskStep euid) ⟨fun _ => none, []⟩).map (tickets euid)
      = es.foldl ticketsStep ⟨fun _ => none, []⟩ := by
  have hempty : tickets euid (fun _ => none) = fun _ => none := by
    funext key
    by_cases hkey : key = []
    · rw [hkey]
      rfl
    · rw [tickets_eq euid _ hkey]
      rfl
  have hstart : Since.map (tickets euid) ⟨fun _ => none, []⟩ = ⟨fun _ => none, []⟩ := by
    show Since.mk (tickets euid fun _ => none) [] = _
    rw [hempty]
  have hstep : ∀ (s : Since StoreDir) (e : DiskEvent euid), AllSynced euid s → True →
      AllSynced euid (diskStep euid s e)
        ∧ (diskStep euid s e).map (tickets euid) = ticketsStep (s.map (tickets euid)) e :=
    fun s e hsync _ => disk_step e hsync
  have hsync : AllSynced euid ⟨fun _ => none, []⟩ := by
    intro dir hdir key f hf
    rw [List.mem_singleton.mp hdir] at hf
    cases hf
  have hrun := Run.foldl_refines hstep es _ hsync (Run.meets_of_forall (fun _ _ => trivial) es _)
  rw [hstart] at hrun
  exact hrun

end Redirect
