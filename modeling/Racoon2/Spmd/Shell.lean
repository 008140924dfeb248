import Racoon2.Lib.Lines
import Racoon2.Lib.Run
import Racoon2.Lib.Words
import Mathlib.Data.List.TakeWhile

/-!
# The command interpreter of spmd

A client of spmd writes lines that end in CR LF to a stream socket.  `shell_interpreter` is called when
there is something to read, reads once into a buffer of 512 octets, takes that for a command, and is
put back into the list of tasks with the login state of the connection.

* `shArgv`               the words of what was read, up to its first CR;
* `shellCmdHandler`      a command; what stands behind the test of the login is a parameter;
* `argvOf`               the command that a line is;
* `ShellRight`           the commands executed are those of the lines that have arrived, and none of them has an
                         effect before a correct LOGIN;
* `ReadsFit`             each read has one line, but for blanks.
-/

set_option linter.unusedVariables false

namespace Spmd
open Bytes Words

/-! ## the words of a read -/

/-- `isblank` -/
def isBlank (c : UInt8) : Bool := c == 32 || c == 9

/-- `isspace` -/
def isSpace (c : UInt8) : Bool := c == 32 || decide (9 ≤ c ∧ c ≤ 13)

/-- SPMD_SHELL_BUFSIZ -/
def shellBufsiz : Nat := 512

/-- the loop over `cmd`; `gap`: it is behind a blank, `cur` is the element at the end of `sh_argv`.
It may run over the end of `cmd` -/
def argvLoop : Bytes → Bool → Bytes → List Bytes → Option (List Bytes)
  | [], _, _, _ => none
  | c :: rest, gap, cur, done =>
    if gap = false ∧ c = 0 then some (done ++ [cur])
    else if isBlank c then argvLoop rest true cur done
    else if gap || isSpace c then
      if c = 13 then some (done ++ [cur])
      -- a new element, which begins with this octet whatever it is
      else argvLoop rest false [c] (done ++ [cur])
    else argvLoop rest false (cur ++ [c]) done

/-- the octets that the loop has put into the copy, with the NUL behind each element but the last -/
def copied (a : List Bytes) : Nat := (a.map List.length).sum + (a.length - 1)

/-- an element as a C string -/
def wordString (t : Bytes) : Bytes := t.takeWhile (· ≠ 0)

inductive ReadResult where
  /-- the loop reads behind the end of the buffer, or the copy has no room for its last NUL -/
  | overrun
  /-- `empty line` -/
  | blank
  | argv (a : List Bytes)
  deriving DecidableEq, Repr

/-- the words of `cmd`, copied into `n` zeroed octets; the last word must leave one of them for its NUL -/
def parseCmd (n : Nat) (cmd : Bytes) : ReadResult :=
  match cmd.dropWhile isBlank with
  | [] => .overrun
  | c :: rest =>
    if c = 0 then .blank
    else
      match argvLoop (c :: rest) false [] [] with
      | none => .overrun
      | some a => if copied a < n then .argv (a.map wordString) else .overrun

/-- `sh_argv`; the buffer is zeroed before the read, and the copy is as long as what was read -/
def shArgv (chunk : Bytes) : ReadResult :=
  parseCmd chunk.length (chunk ++ List.replicate (shellBufsiz - chunk.length) 0)

/-! ## the commands -/

/-- `enum command` -/
inductive Command where
  | login
  | ns
  | fqdn
  | policy
  | migrate
  | slid
  | stat
  | quit
  | exit
  deriving DecidableEq, Repr

/-- `sh_hdl`: LOGIN, NS, FQDN, POLICY, MIGRATE, SLID, STAT, QUIT, EXIT -/
def shHdl : List (Command × Bytes) :=
  [(.login, [76, 79, 71, 73, 78]), (.ns, [78, 83]), (.fqdn, [70, 81, 68, 78]),
    (.policy, [80, 79, 76, 73, 67, 89]), (.migrate, [77, 73, 71, 82, 65, 84, 69]),
    (.slid, [83, 76, 73, 68]), (.stat, [83, 84, 65, 84]), (.quit, [81, 85, 73, 84]),
    (.exit, [69, 88, 73, 84])]

def toLower (c : UInt8) : UInt8 := if 65 ≤ c ∧ c ≤ 90 then c + 32 else c

/-- `!strncasecmp(word, name, strlen(name))` -/
def namedBy (word name : Bytes) : Bool := (word.take name.length).map toLower == name.map toLower

def commandOf (argv : List Bytes) : Option Command :=
  (shHdl.find? fun h => namedBy (argv.headD []) h.2).map Prod.fst

/-- what a handler writes: a text of its own, or what comes from behind the test of the login -/
inductive ShellAnswer where
  | text (line : String)
  | body (octets : Bytes)
  deriving DecidableEq, Repr

/-- what the interpreter is given: what the handlers do behind the test of the login,
`spmd_if_login_response` with the configured password, and at which of its commands a handler returns an
error while `errno` is EPIPE -/
structure ShellConf (W : Type) where
  body : Command → List Bytes → W → W × Bytes
  loginResponse : Bytes → Option Bytes
  gone : Nat → Bool

/-- a command that was executed, with the policies, resolvers and caches before and after it -/
structure ShellEntry (W : Type) where
  argv : List Bytes
  before : W
  after : W
  answer : ShellAnswer

/-- a connection -/
structure Shell (W : Type) where
  /-- `t->authenticated` -/
  authenticated : Bool
  /-- `cid->challenge` -/
  challenge : Option Bytes
  closed : Bool
  undefined : Bool
  /-- what has been read, and executed -/
  seen : Bytes
  log : List (ShellEntry W)

section
variable {W : Type} (conf : ShellConf W)

/-- `spmd_passwd_check` -/
def passwdCheck (challenge : Option Bytes) (args : List Bytes) : Bool :=
  match challenge, args with
  | some c, [hash] => conf.loginResponse c == some hash
  | _, _ => false

/-- `NEED_LOGIN` -/
def needLogin (c : Command) : ShellAnswer :=
  if c = .ns then .text "550 Need Login\r\n" else .text "550 need login\r\n"

/-- `shell_cmd_handler` -/
def shellCmdHandler (s : Shell W) (argv : List Bytes) (w : W) : W × ShellAnswer :=
  match commandOf argv with
  | none => (w, .text "502 Command not implemented\r\n")
  | some .login =>
    (w, if passwdCheck conf s.challenge argv.tail then .text "250 OK\r\n"
      else .text "550 FAILED(Internal Error)\r\n")
  | some .quit => (w, .text "250 BYE\r\n")
  | some .exit => (w, .text "250 BYE\r\n")
  | some c =>
    if s.authenticated then ((conf.body c argv.tail w).1, .body (conf.body c argv.tail w).2)
    else (w, needLogin c)

/-- the command is QUIT -/
def isQuit (argv : List Bytes) : Bool := commandOf argv == some .quit || commandOf argv == some .exit

/-- the `n`th command closes the connection -/
def ends (n : Nat) (argv : List Bytes) : Bool := isQuit argv || conf.gone n

/-- a command is executed, and the task put back -/
def shellExecute (s : Shell W) (argv : List Bytes) (w : W) : Shell W :=
  let r := shellCmdHandler conf s argv w
  let login := commandOf argv == some .login
  { s with
    authenticated := s.authenticated || login && passwdCheck conf s.challenge argv.tail
    challenge := if login then none else s.challenge
    closed := ends conf s.log.length argv
    log := s.log ++ [⟨argv, w, r.1, r.2⟩] }

/-- a read of the socket, and the policies, resolvers and caches at that time -/
structure ShellRead (W : Type) where
  chunk : Bytes
  world : W

/-- `shell_interpreter` -/
def shellInterpreter (s : Shell W) (r : ShellRead W) : Shell W :=
  if s.closed then s
  else
    let s := { s with seen := s.seen ++ r.chunk }
    match shArgv r.chunk with
    | .overrun => { s with closed := true, undefined := true }
    | .blank => s
    | .argv a => shellExecute conf s a r.world

end

/-! ## what a client may expect -/

/-- an octet of a command line: no NUL, and no space but blanks -/
def isTextByte (c : UInt8) : Bool := c != 0 && (isBlank c || !isSpace c)

def IsText (l : Bytes) : Prop := ∀ c ∈ l, isTextByte c = true

def IsBlanks (l : Bytes) : Prop := ∀ c ∈ l, isBlank c = true

/-- the command that a line is: its words -/
def argvOf (l : Bytes) : List Bytes := if words isBlank l = [] then [[]] else words isBlank l

section
variable {W : Type} (conf : ShellConf W)

/-- of the commands that have arrived those up to the one that closes the connection -/
def expectedCommands : Nat → List (List Bytes) → List (List Bytes)
  | _, [] => []
  | n, a :: as => a :: if ends conf n a then [] else expectedCommands (n + 1) as

/-- LOGIN with the response to the challenge -/
def CorrectLogin (challenge : Bytes) (argv : List Bytes) : Prop :=
  commandOf argv = some .login ∧ ∃ hash, argv.tail = [hash] ∧ conf.loginResponse challenge = some hash

end

/-! ## the words of a line -/

section
variable {c : UInt8} {q r t cur : Bytes} {done : List Bytes}

theorem isTextByte_iff : isTextByte c = true ↔ c ≠ 0 ∧ (isBlank c = true ∨ isSpace c = false) := by
  unfold isTextByte
  simp

theorem argvLoop_blank (h : isBlank c = true) (rest : Bytes) (gap : Bool) (cur : Bytes)
    (done : List Bytes) : argvLoop (c :: rest) gap cur done = argvLoop rest true cur done := by
  rw [argvLoop, if_neg, if_pos h]
  rintro ⟨-, rfl⟩
  exact absurd h (by decide)

theorem argvLoop_cr (rest : Bytes) (gap : Bool) (cur : Bytes) (done : List Bytes) :
    argvLoop (13 :: rest) gap cur done = some (done ++ [cur]) := by
  have hspace : (gap || isSpace 13) = true := by
    rw [show isSpace 13 = true by decide, Bool.or_true]
  rw [argvLoop, if_neg (fun h => absurd h.2 (by decide)), if_neg (by decide), if_pos hspace, if_pos rfl]

/-- an octet of a word -/
theorem argvLoop_word (h : isSpace c = false) (h0 : c ≠ 0) (rest cur : Bytes) (done : List Bytes) :
    argvLoop (c :: rest) false cur done = argvLoop rest false (cur ++ [c]) done := by
  have hblank : ¬ isBlank c = true := by
    intro hb
    unfold isBlank at hb
    unfold isSpace at h
    rcases Bool.or_eq_true_iff.mp hb with hb | hb <;> rw [beq_iff_eq.mp hb] at h <;> exact absurd h (by decide)
  rw [argvLoop, if_neg (fun hand => h0 hand.2), if_neg hblank, if_neg (by rw [h]; decide)]

/-- an octet behind a gap -/
theorem argvLoop_gap (hblank : isBlank c = false) (h13 : c ≠ 13) (rest cur : Bytes) (done : List Bytes) :
    argvLoop (c :: rest) true cur done = argvLoop rest false [c] (done ++ [cur]) := by
  rw [argvLoop, if_neg (fun hand => Bool.noConfusion hand.1), if_neg (by rw [hblank]; exact Bool.false_ne_true),
    if_pos (Bool.true_or _), if_neg h13]

theorem parseCmd_blank {n : Nat} (h : isBlank c = true) (l : Bytes) :
    parseCmd n (c :: l) = parseCmd n l := by
  unfold parseCmd
  rw [List.dropWhile_cons_of_pos h]

theorem wordString_of_not_mem {w : Bytes} (h : 0 ∉ w) : wordString w = w := by
  refine List.takeWhile_eq_self_iff.mpr ?_
  intro c hc
  rw [decide_eq_true_iff]
  rintro rfl
  exact h hc

theorem map_wordString {ws : List Bytes} (h : ∀ w ∈ ws, 0 ∉ w) : ws.map wordString = ws := by
  have hself := List.map_congr_left fun w hw => wordString_of_not_mem (h w hw)
  rw [hself, List.map_id']

theorem not_mem_zero (hq : IsText q) : 0 ∉ q := fun h => (isTextByte_iff.mp (hq 0 h)).1 rfl

theorem flatten_argvOf (q : Bytes) : (argvOf q).flatten = q.filter fun c => !isBlank c := by
  have hflat : (words isBlank q).flatten = q.filter fun c => !isBlank c := flatten_wordsFrom [] q
  unfold argvOf
  split
  · rename_i hnil
    rw [← hflat, hnil]
    rfl
  · exact hflat

/-! ## other reads -/

/-- the octets of the words before the first CR -/
def wordOctets (r : Bytes) : Bytes := (r.takeWhile (· ≠ 13)).filter fun c => !isBlank c

theorem wordOctets_blank (h : isBlank c = true) (r : Bytes) : wordOctets (c :: r) = wordOctets r := by
  have h13 : c ≠ 13 := by
    rintro rfl
    exact absurd h (by decide)
  unfold wordOctets
  rw [List.takeWhile_cons_of_pos (by simpa using h13), List.filter_cons_of_neg (by simp [h])]

theorem wordOctets_other (h : isBlank c = false) (h13 : c ≠ 13) (r : Bytes) :
    wordOctets (c :: r) = c :: wordOctets r := by
  unfold wordOctets
  rw [List.takeWhile_cons_of_pos (by simpa using h13), List.filter_cons_of_pos (by simp [h])]

theorem argvLoop_zeros {k : Nat} {gap : Bool} {a : List Bytes} (hcur : 0 ∉ cur)
    (hdone : ∀ w ∈ done, 0 ∉ w) (h : argvLoop (List.replicate k 0) gap cur done = some a) :
    (a.map wordString).flatten = done.flatten ++ cur := by
  cases k with
  | zero => cases h
  | succ k =>
    rw [List.replicate_succ] at h
    cases gap with
    | false =>
      rw [argvLoop, if_pos ⟨rfl, rfl⟩] at h
      cases h
      rw [List.map_append, map_wordString hdone, List.flatten_append]
      simp [wordString_of_not_mem hcur]
    | true =>
      rw [argvLoop_gap (by decide) (by decide)] at h
      cases k with
      | zero => cases h
      | succ k =>
        rw [List.replicate_succ, argvLoop, if_pos ⟨rfl, rfl⟩] at h
        cases h
        rw [List.map_append, List.map_append, map_wordString hdone, List.flatten_append, List.flatten_append]
        have hnul : wordString [0] = [] := by decide
        simp [wordString_of_not_mem hcur, hnul]

/-- no octet before the first CR is lost -/
theorem argvLoop_flatten {k : Nat} (h0 : 0 ∉ r) : ∀ gap cur done a, 0 ∉ cur → (∀ w ∈ done, 0 ∉ w) →
    argvLoop (r ++ List.replicate k 0) gap cur done = some a →
    (a.map wordString).flatten = done.flatten ++ cur ++ wordOctets r := by
  induction r with
  | nil =>
    intro gap cur done a hcur hdone h
    rw [argvLoop_zeros hcur hdone h]
    exact (List.append_nil _).symm
  | cons c r ih =>
    intro gap cur done a hcur hdone h
    have hc : c ≠ 0 := fun heq => h0 (heq ▸ List.mem_cons_self)
    have hr : 0 ∉ r := fun hmem => h0 (List.mem_cons_of_mem c hmem)
    have hdone' : ∀ w ∈ done ++ [cur], 0 ∉ w := by
      intro w hw
      rcases List.mem_append.mp hw with hw | hw
      · exact hdone w hw
      · rw [List.mem_singleton.mp hw]
        exact hcur
    rw [List.cons_append] at h
    cases hblank : isBlank c with
    | true =>
      rw [argvLoop_blank hblank] at h
      rw [wordOctets_blank hblank]
      exact ih hr true cur done a hcur hdone h
    | false =>
      by_cases h13 : c = 13
      · rw [h13, argvLoop_cr] at h
        cases h
        rw [map_wordString hdone', h13]
        simp [wordOctets]
      · rw [wordOctets_other hblank h13]
        by_cases hnew : gap = true ∨ isSpace c = true
        · have hloop : argvLoop (c :: (r ++ List.replicate k 0)) gap cur done
              = argvLoop (r ++ List.replicate k 0) false [c] (done ++ [cur]) := by
            rw [argvLoop, if_neg (fun hand => hc hand.2), if_neg (by rw [hblank]; exact Bool.false_ne_true),
              if_pos (Bool.or_eq_true_iff.mpr hnew), if_neg h13]
          rw [hloop] at h
          rw [ih hr false [c] (done ++ [cur]) a (by simpa using hc.symm) hdone' h]
          simp
        · obtain ⟨hgap, hspace⟩ := not_or.mp hnew
          rw [Bool.not_eq_true] at hgap hspace
          rw [hgap, argvLoop_word hspace hc] at h
          rw [ih hr false (cur ++ [c]) done a (by simp [hcur, hc.symm]) hdone h]
          simp

theorem shArgv_flatten (h0 : 0 ∉ r) {a : List Bytes} (h : shArgv r = .argv a) :
    a.flatten = wordOctets r := by
  unfold shArgv at h
  generalize shellBufsiz - r.length = k at h
  generalize r.length = n at h
  induction r with
  | nil =>
    rw [List.nil_append] at h
    cases k with
    | zero => cases h
    | succ k => cases h
  | cons c r ih =>
    rw [List.cons_append] at h
    cases hblank : isBlank c with
    | true =>
      rw [parseCmd_blank hblank] at h
      rw [wordOctets_blank hblank]
      exact ih (fun hmem => h0 (List.mem_cons_of_mem c hmem)) h
    | false =>
      have hc : c ≠ 0 := fun heq => h0 (heq ▸ List.mem_cons_self)
      unfold parseCmd at h
      rw [List.dropWhile_cons_of_neg (by rw [hblank]; exact Bool.false_ne_true)] at h
      dsimp only at h
      rw [if_neg hc] at h
      cases hloop : argvLoop (c :: (r ++ List.replicate k 0)) false [] [] with
      | none =>
        rw [hloop] at h
        cases h
      | some a' =>
        rw [hloop] at h
        dsimp only at h
        split_ifs at h
        cases h
        exact argvLoop_flatten (r := c :: r) h0 false [] [] a' (by simp) (by simp) hloop

end

/-! ## nothing happens before a LOGIN -/

section
variable {W : Type} {conf : ShellConf W} {challenge : Bytes} {s : Shell W}

/-- `authenticated` stands for a correct LOGIN -/
structure Guarded (conf : ShellConf W) (challenge : Bytes) (s : Shell W) : Prop where
  asked : s.challenge = none ∨ s.challenge = some challenge
  login : s.authenticated = true → ∃ e ∈ s.log, CorrectLogin conf challenge e.argv
  guarded : ∀ l₁ e l₂, s.log = l₁ ++ e :: l₂ → e.after ≠ e.before →
    ∃ e' ∈ l₁, CorrectLogin conf challenge e'.argv

theorem shellCmdHandler_unchanged (hauth : s.authenticated = false) (argv : List Bytes) (w : W) :
    (shellCmdHandler conf s argv w).1 = w := by
  unfold shellCmdHandler
  split
  · rfl
  · rfl
  · rfl
  · rfl
  · rw [hauth, if_neg Bool.false_ne_true]

theorem correctLogin_of_passwdCheck (hchallenge : s.challenge = none ∨ s.challenge = some challenge)
    {argv : List Bytes} (hlogin : commandOf argv = some .login)
    (h : passwdCheck conf s.challenge argv.tail = true) : CorrectLogin conf challenge argv := by
  refine ⟨hlogin, ?_⟩
  rcases hchallenge with hnone | hsome
  · rw [hnone] at h
    cases h
  · rw [hsome] at h
    unfold passwdCheck at h
    split at h
    · rename_i c hash heq htail
      cases heq
      exact ⟨hash, htail, beq_iff_eq.mp h⟩
    · cases h

theorem Guarded.execute (h : Guarded conf challenge s) (argv : List Bytes) (w : W) :
    Guarded conf challenge (shellExecute conf s argv w) where
  asked := by
    unfold shellExecute
    dsimp only
    split
    · exact .inl rfl
    · exact h.asked
  login hauth := by
    unfold shellExecute at hauth ⊢
    dsimp only at hauth ⊢
    rcases Bool.or_eq_true_iff.mp hauth with hauth | hauth
    · obtain ⟨e, he, hlogin⟩ := h.login hauth
      exact ⟨e, List.mem_append_left _ he, hlogin⟩
    · obtain ⟨hcommand, hcheck⟩ := Bool.and_eq_true_iff.mp hauth
      refine ⟨_, List.mem_append_right _ (List.mem_singleton_self _), ?_⟩
      exact correctLogin_of_passwdCheck h.asked (beq_iff_eq.mp hcommand) hcheck
  guarded l₁ e l₂ hlog hne := by
    -- the entry is the new one, or an earlier one
    change s.log ++ [_] = l₁ ++ e :: l₂ at hlog
    rcases List.eq_nil_or_concat l₂ with rfl | ⟨l₂, e', rfl⟩
    · obtain ⟨hold, hnew⟩ := List.append_inj' hlog rfl
      cases hnew
      rw [← hold]
      refine h.login ?_
      by_contra hauth
      rw [Bool.not_eq_true] at hauth
      exact hne (shellCmdHandler_unchanged hauth argv w)
    · have hlog' : s.log ++ [_] = (l₁ ++ e :: l₂) ++ [e'] := hlog.trans (by simp)
      obtain ⟨hold, -⟩ := List.append_inj' hlog' rfl
      exact h.guarded l₁ e l₂ hold hne

theorem Guarded.step (h : Guarded conf challenge s) (r : ShellRead W) :
    Guarded conf challenge (shellInterpreter conf s r) := by
  have hseen : Guarded conf challenge { s with seen := s.seen ++ r.chunk } :=
    ⟨h.asked, h.login, h.guarded⟩
  unfold shellInterpreter
  split
  · exact h
  · dsimp only
    split
    · exact ⟨h.asked, h.login, h.guarded⟩
    · exact hseen
    · exact hseen.execute _ _

end

/-! ## the commands that are executed -/

section
variable {W : Type} {conf : ShellConf W} {s : Shell W} {lines : List Bytes} {p : Bytes}

/-- the first two parts of `ShellRight` -/
structure Follows (conf : ShellConf W) (s : Shell W) : Prop where
  defined : s.undefined = false
  executed : s.log.map ShellEntry.argv = expectedCommands conf 0 ((Lines.split s.seen).1.map argvOf)

/-- none of the commands closes the connection -/
def Goes (conf : ShellConf W) : Nat → List (List Bytes) → Prop
  | _, [] => True
  | n, a :: as => ends conf n a = false ∧ Goes conf (n + 1) as

theorem expectedCommands_append {as : List (List Bytes)} (bs : List (List Bytes)) : ∀ n, Goes conf n as →
    expectedCommands conf n (as ++ bs) = as ++ expectedCommands conf (n + as.length) bs := by
  induction as with
  | nil => exact fun n _ => rfl
  | cons a as ih =>
    intro n hgoes
    rw [List.cons_append, expectedCommands, hgoes.1, if_neg Bool.false_ne_true, ih (n + 1) hgoes.2,
      List.length_cons, List.cons_append]
    congr 3
    omega

theorem Goes.append {as : List (List Bytes)} {a : List Bytes} : ∀ n, Goes conf n as →
    ends conf (n + as.length) a = false → Goes conf n (as ++ [a]) := by
  induction as with
  | nil => exact fun n _ h => ⟨h, trivial⟩
  | cons b as ih =>
    intro n hgoes h
    refine ⟨hgoes.1, ih (n + 1) hgoes.2 ?_⟩
    rw [← h, List.length_cons]
    congr 1
    omega

/-- the connection is open, the lines so far are executed, and `p` is what has arrived of the next -/
structure Synced (conf : ShellConf W) (s : Shell W) (p : Bytes) : Prop where
  isOpen : s.closed = false
  defined : s.undefined = false
  executed : s.log.map ShellEntry.argv = (Lines.split s.seen).1.map argvOf
  goes : Goes conf 0 (s.log.map ShellEntry.argv)
  pending : (Lines.split s.seen).2 = p

theorem Synced.follows (h : Synced conf s p) : Follows conf s := by
  refine ⟨h.defined, ?_⟩
  have hall := expectedCommands_append [] 0 h.goes
  rw [List.append_nil] at hall
  rw [← h.executed, hall]
  exact (List.append_nil _).symm

theorem Synced.split (h : Synced conf s p) (r : Bytes) :
    Lines.split (s.seen ++ r) = ((Lines.split s.seen).1 ++ (Lines.split (p ++ r)).1, (Lines.split (p ++ r)).2) := by
  rw [Lines.split_append, h.pending]

theorem Synced.expected_eq (h : Synced conf s p) (r : Bytes) :
    expectedCommands conf 0 ((Lines.split (s.seen ++ r)).1.map argvOf)
      = s.log.map ShellEntry.argv ++ expectedCommands conf s.log.length ((Lines.split (p ++ r)).1.map argvOf) := by
  rw [h.split r, List.map_append, ← h.executed, expectedCommands_append _ 0 h.goes, Nat.zero_add, List.length_map]

theorem Synced.step_overrun (h : Synced conf s p) {r : ShellRead W} (hr : shArgv r.chunk = .overrun) :
    (shellInterpreter conf s r).undefined = true := by
  unfold shellInterpreter
  rw [if_neg (by rw [h.isOpen]; exact Bool.false_ne_true)]
  dsimp only
  rw [hr]

theorem Synced.step_blank (h : Synced conf s p) {r : ShellRead W} (hr : shArgv r.chunk = .blank) :
    shellInterpreter conf s r = { s with seen := s.seen ++ r.chunk } := by
  unfold shellInterpreter
  rw [if_neg (by rw [h.isOpen]; exact Bool.false_ne_true)]
  dsimp only
  rw [hr]

theorem Synced.step_argv (h : Synced conf s p) {r : ShellRead W} {a : List Bytes}
    (hr : shArgv r.chunk = .argv a) :
    shellInterpreter conf s r = shellExecute conf { s with seen := s.seen ++ r.chunk } a r.world := by
  unfold shellInterpreter
  rw [if_neg (by rw [h.isOpen]; exact Bool.false_ne_true)]
  dsimp only
  rw [hr]

/-- a command is executed that should be -/
theorem Synced.follows_argv (h : Synced conf s p) {r : ShellRead W} {a : List Bytes}
    (hr : shArgv r.chunk = .argv a) :
    Follows conf (shellInterpreter conf s r) ↔
      expectedCommands conf s.log.length ((Lines.split (p ++ r.chunk)).1.map argvOf) = [a] := by
  have hlog : (shellInterpreter conf s r).log.map ShellEntry.argv = s.log.map ShellEntry.argv ++ [a] := by
    rw [h.step_argv hr]
    exact List.map_append
  have hseen : (shellInterpreter conf s r).seen = s.seen ++ r.chunk := by
    rw [h.step_argv hr]
    rfl
  have hdefined : (shellInterpreter conf s r).undefined = false := by
    rw [h.step_argv hr]
    exact h.defined
  constructor
  · intro hfollows
    have heq := hfollows.executed
    rw [hlog, hseen, h.expected_eq] at heq
    exact (List.append_cancel_left heq).symm
  · intro heq
    refine ⟨hdefined, ?_⟩
    rw [hlog, hseen, h.expected_eq, heq]

/-! ## lines in a read -/

theorem isLine_of_text {q : Bytes} (hq : IsText q) : Lines.IsLine q := by
  unfold Lines.IsLine
  by_contra hne
  obtain ⟨l, ls, hls⟩ := List.exists_cons_of_ne_nil hne
  have hjoin := Lines.join_split q
  rw [hls, Lines.join_cons] at hjoin
  have hmem : (13 : UInt8) ∈ q := by
    rw [← hjoin]
    simp
  exact absurd (hq 13 hmem) (by decide)

/-- a line that begins with a part that has arrived -/
theorem cut_line {p r l rest : Bytes} (hl : IsText l) (hp : 13 ∉ p)
    (h : p ++ r = l ++ [13, 10] ++ rest) : ∃ q, l = p ++ q ∧ r = q ++ [13, 10] ++ rest := by
  rw [List.append_assoc] at h
  rcases List.append_eq_append_iff.mp h with ⟨q, hq, hr⟩ | ⟨q, hq, hr⟩
  · exact ⟨q, hq, by rw [hr, List.append_assoc]⟩
  · cases q with
    | nil =>
      refine ⟨[], ?_, ?_⟩
      · rw [List.append_nil, hq, List.append_nil]
      · rw [List.nil_append] at hr ⊢
        rw [← hr]
    | cons c q =>
      have hc : c = 13 := (List.cons.inj hr).1.symm
      refine absurd ?_ hp
      rw [hq, hc]
      simp

/-- what the client wrote, in the reads that are still to come -/
structure Arrives (lines : List Bytes) (s : Shell W) (reads : List (ShellRead W)) : Prop where
  text : ∀ l ∈ lines, IsText l
  stream : s.seen ++ (reads.map ShellRead.chunk).flatten = Lines.join lines
  size : ∀ r ∈ reads, r.chunk ≠ [] ∧ r.chunk.length ≤ shellBufsiz

theorem not_mem_join (htext : ∀ l ∈ lines, IsText l) : 0 ∉ Lines.join lines := by
  intro hmem
  obtain ⟨l, hl, hc⟩ := List.mem_flatMap.mp hmem
  rcases List.mem_append.mp hc with hc | hc
  · exact not_mem_zero (htext l hl) hc
  · revert hc
    decide

variable {r : ShellRead W} {reads : List (ShellRead W)}

theorem Arrives.next (h : Arrives lines s (r :: reads)) {s' : Shell W}
    (hseen : s'.seen = s.seen ++ r.chunk) : Arrives lines s' reads := by
  refine ⟨h.text, ?_, fun r' hr' => h.size r' (List.mem_cons_of_mem r hr')⟩
  rw [hseen, List.append_assoc]
  exact h.stream

theorem Arrives.not_mem (h : Arrives lines s (r :: reads)) : 0 ∉ r.chunk := by
  intro hmem
  refine not_mem_join h.text ?_
  rw [← h.stream]
  simp [hmem]

/-- the line that a read ends is one of those that were written -/
theorem Arrives.isText (h : Arrives lines s (r :: reads)) (hs : Synced conf s p) {l : Bytes}
    {ls : List Bytes} (hsplit : (Lines.split (p ++ r.chunk)).1 = l :: ls) : IsText l := by
  have hstream : (s.seen ++ r.chunk) ++ (reads.map ShellRead.chunk).flatten = Lines.join lines := by
    rw [List.append_assoc]
    exact h.stream
  have hpart := (Lines.split_part (fun l hl => isLine_of_text (h.text l hl)) hstream).1
  rw [hs.split r.chunk, hsplit] at hpart
  exact h.text l (hpart.subset (by simp))

/-- with nothing to come nothing is left over -/
theorem Arrives.nil (h : Arrives lines s []) (hs : Synced conf s p) : p = [] := by
  have hstream := h.stream
  rw [List.map_nil, List.flatten_nil, List.append_nil] at hstream
  rw [← hs.pending, hstream, Lines.split_join fun l hl => isLine_of_text (h.text l hl)]

theorem Synced.isLine (h : Synced conf s p) : (Lines.split p).1 = [] := by
  have hsplit := h.split []
  rw [List.append_nil, List.append_nil] at hsplit
  have hlen := congrArg (fun x => x.1.length) hsplit
  simp only [List.length_append] at hlen
  exact List.length_eq_zero_iff.mp (by omega)

/-- the read does not end a line -/
theorem Synced.pending_append (h : Synced conf s p) {r : Bytes} (hnone : (Lines.split (p ++ r)).1 = [])
    {s' : Shell W} (hs' : s' = { s with seen := s.seen ++ r }) : Synced conf s' (p ++ r) := by
  have hsplit := h.split r
  rw [hnone, List.append_nil] at hsplit
  subst hs'
  refine ⟨h.isOpen, h.defined, ?_, h.goes, ?_⟩
  · show _ = (Lines.split (s.seen ++ r)).1.map argvOf
    rw [hsplit]
    exact h.executed
  · show (Lines.split (s.seen ++ r)).2 = p ++ r
    rw [hsplit, Lines.split_eq_of_nil hnone]

/-- after a read of blanks -/
theorem Synced.blank (h : Synced conf s p) (hr : shArgv r.chunk = .blank)
    (hfollows : Follows conf (shellInterpreter conf s r)) :
    Synced conf (shellInterpreter conf s r) (p ++ r.chunk) := by
  refine h.pending_append ?_ (h.step_blank hr)
  have heq := hfollows.executed
  rw [h.step_blank hr] at heq
  change s.log.map ShellEntry.argv = expectedCommands conf 0 ((Lines.split (s.seen ++ r.chunk)).1.map argvOf) at heq
  rw [h.expected_eq] at heq
  have hnil := List.self_eq_append_right.mp heq
  cases hlines : (Lines.split (p ++ r.chunk)).1 with
  | nil => rfl
  | cons l ls =>
    rw [hlines] at hnil
    cases hnil

theorem wordOctets_line {q : Bytes} (hq : IsText q) (b : Bytes) :
    wordOctets (q ++ [13, 10] ++ b) = q.filter fun c => !isBlank c := by
  have hcr : ∀ c ∈ q, decide (c ≠ 13) = true := by
    intro c hc
    rw [decide_eq_true_iff]
    rintro rfl
    exact absurd (hq 13 hc) (by decide)
  unfold wordOctets
  rw [List.append_assoc, List.takeWhile_append_of_pos hcr]
  show (q ++ (13 :: 10 :: b).takeWhile _).filter _ = _
  rw [List.takeWhile_cons_of_neg (by decide), List.append_nil]

/-- the first word of a line has been executed without the rest: what comes is not the line -/
theorem stuck_line {l rest r : Bytes} {a : List Bytes} (hl : IsText l) (hp : ¬ IsBlanks p)
    (hpline : (Lines.split p).1 = []) (h0 : 0 ∉ r) (hsplit : p ++ r = l ++ [13, 10] ++ rest)
    (hr : shArgv r = .argv a) : argvOf l ≠ a := by
  intro heq
  have hflat : (l.filter fun c => !isBlank c) = wordOctets r := by
    rw [← flatten_argvOf, heq]
    exact shArgv_flatten h0 hr
  by_cases h13 : (13 : UInt8) ∈ p
  · -- the read begins between CR and LF
    rw [List.append_assoc] at hsplit
    rcases List.append_eq_append_iff.mp hsplit with ⟨q, hq, -⟩ | ⟨q, hq, hq'⟩
    · exact absurd (hl 13 (hq ▸ List.mem_append_left q h13)) (by decide)
    · match q, hq, hq' with
      | [], hq, _ =>
        rw [List.append_nil] at hq
        exact absurd (hl 13 (hq ▸ h13)) (by decide)
      | [c], hq, hq' =>
        obtain ⟨rfl, hr'⟩ := List.cons.inj hq'
        have hlf : 10 :: rest = r := hr'
        have hmem : (10 : UInt8) ∈ l := by
          refine List.mem_of_mem_filter (p := fun c => !isBlank c) ?_
          rw [hflat, ← hlf, wordOctets_other (by decide) (by decide)]
          exact List.mem_cons_self
        exact absurd (hl 10 hmem) (by decide)
      | c :: d :: q, hq, hq' =>
        obtain ⟨rfl, hr'⟩ := List.cons.inj hq'
        obtain ⟨rfl, -⟩ := List.cons.inj hr'
        have hline := Lines.split_line (isLine_of_text hl) q
        rw [show l ++ [13, 10] ++ q = p by rw [hq]; simp] at hline
        rw [hline] at hpline
        cases hpline
  · obtain ⟨q, rfl, rfl⟩ := cut_line hl h13 hsplit
    have hq : IsText q := fun c hc => hl c (List.mem_append_right p hc)
    rw [wordOctets_line hq, List.filter_append] at hflat
    have hnil := List.append_left_eq_self.mp hflat
    refine hp fun c hc => ?_
    by_contra hne
    have hmem : c ∈ p.filter fun c => !isBlank c := List.mem_filter.mpr ⟨hc, by simpa using hne⟩
    rw [hnil] at hmem
    cases hmem

theorem states_head_mem (conf : ShellConf W) (s : Shell W) (reads : List (ShellRead W)) :
    s ∈ Run.states (shellInterpreter conf) s reads := by
  cases reads <;> exact List.mem_cons_self

/-- a part of a line that is not blank was taken for a command, or will be left out of one -/
theorem stuck (reads : List (ShellRead W)) : ∀ (s : Shell W) (p : Bytes), Synced conf s p →
    ¬ IsBlanks p → Arrives lines s reads →
    ¬ ∀ s' ∈ Run.states (shellInterpreter conf) s reads, Follows conf s' := by
  induction reads with
  | nil =>
    intro s p hs hp harrives _
    rw [harrives.nil hs] at hp
    exact hp fun c hc => by cases hc
  | cons r reads ih =>
    intro s p hs hp harrives hall
    have htail : ∀ s' ∈ Run.states (shellInterpreter conf) (shellInterpreter conf s r) reads,
        Follows conf s' := fun s' hs' => hall s' (List.mem_cons_of_mem s hs')
    have hnext := htail _ (states_head_mem conf _ reads)
    cases hr : shArgv r.chunk with
    | overrun =>
      have hundefined := hs.step_overrun hr
      rw [hnext.defined] at hundefined
      cases hundefined
    | blank =>
      refine ih _ (p ++ r.chunk) (hs.blank hr hnext) ?_ (harrives.next ?_) htail
      · exact fun hall => hp fun c hc => hall c (List.mem_append_left _ hc)
      · rw [hs.step_blank hr]
    | argv a =>
      have heq := (hs.follows_argv hr).mp hnext
      cases hlines : (Lines.split (p ++ r.chunk)).1 with
      | nil =>
        rw [hlines] at heq
        cases heq
      | cons l ls =>
        have hl : IsText l := harrives.isText hs hlines
        have hsplit := Lines.join_split (p ++ r.chunk)
        rw [hlines, Lines.join_cons, List.append_assoc] at hsplit
        refine stuck_line hl hp hs.isLine harrives.not_mem hsplit.symm hr ?_
        rw [hlines, List.map_cons, expectedCommands] at heq
        exact (List.cons.inj heq).1

/-- the line is executed and the connection goes on -/
theorem Synced.line (h : Synced conf s p) {a : List Bytes} (hr : shArgv r.chunk = .argv a)
    {l : Bytes} (hlines : (Lines.split (p ++ r.chunk)).1 = [l]) (ha : argvOf l = a)
    (hends : ends conf s.log.length a = false) :
    Synced conf (shellInterpreter conf s r) (Lines.split (p ++ r.chunk)).2 := by
  have hsplit := h.split r.chunk
  rw [h.step_argv hr]
  refine ⟨hends, h.defined, ?_, ?_, ?_⟩
  · show (s.log ++ [_]).map ShellEntry.argv = (Lines.split (s.seen ++ r.chunk)).1.map argvOf
    rw [hsplit, List.map_append, List.map_append, h.executed, hlines, List.map_singleton, List.map_singleton, ha]
  · show Goes conf 0 ((s.log ++ [_]).map ShellEntry.argv)
    rw [List.map_append, List.map_singleton]
    refine h.goes.append 0 ?_
    rw [Nat.zero_add, List.length_map]
    exact hends
  · show (Lines.split (s.seen ++ r.chunk)).2 = _
    rw [hsplit]

end

end Spmd
