import Racoon2.Lib.Lines
import Racoon2.Lib.Run

/-!
# The interface to spmd

Commands to spmd wait in a queue. The first one has been written, and its reply is awaited; when the
reply is there the callback of the command is called and the next one is written. A command that is
posted while the queue is empty is written at once.

* `World`, `step`: the queue, the reader of replies, and the commands and replies on their way;
* `World.jobs`: the commands posted so far, as they were when their reply came;
* `Ok`: a step that writes what it has to write, at the right time, for replies that the reader holds;
* `Meets`: each command is written once, each callback gets the reply to its own command.
-/

set_option linter.unusedVariables false

namespace Spmd
open Bytes

/-! ## jobs and replies -/

inductive JobType where
  | canceled
  | policyAdd
  | policyDelete
  | fqdnQuery
  | slid
  | migrate
  deriving DecidableEq, Repr

/-- `struct spmif_job`, with the number of its post -/
structure Job where
  id : Nat
  type : JobType
  callback : Bool
  tag : Option Nat
  buf : Bytes
  deriving DecidableEq, Repr

/-- what a callback is called with: 0 or -1, or a string or NULL -/
inductive Result where
  | code (ok : Bool)
  | string (s : Option Bytes)
  deriving DecidableEq, Repr

/-- a line begins with the status code 250 -/
def is250 (line : Bytes) : Bool := line.take 3 = [50, 53, 48]

/-- the root of the DNS tree is stripped -/
def stripDot (s : Bytes) : Bytes := if s.getLast? = some 46 then s.dropLast else s

/-- the functions `parserep_*` -/
def parserep (type : JobType) (lines : List Bytes) : Option Result :=
  let line := lines.headD []
  match type with
  | .canceled => none
  | .policyAdd => some (.code (byteAt line 0 = 50))
  | .policyDelete => some (.code (byteAt line 0 = 50))
  | .fqdnQuery => some (.string (if is250 line then some (stripDot (line.drop 4)) else none))
  | .slid => some (.string (if is250 line then some (line.drop 4) else none))
  | .migrate => some (.code (byteAt line 0 = 50))

/-- MARK_REP_CONTINUE after the status code -/
def continues (line : Bytes) : Bool := byteAt line 3 = 45

/-- a line of a reply: a status code, a mark and text -/
structure IsReplyLine (line : Bytes) : Prop where
  isLine : Lines.IsLine line
  marked : 4 ≤ line.length
  isText : 0 ∉ line

/-- a reply of spmd: lines of which the last one alone does not announce another -/
structure Reply where
  first : List Bytes
  last : Bytes
  isReply : ∀ l ∈ first ++ [last], IsReplyLine l
  continued : ∀ l ∈ first, continues l = true
  ended : continues last = false

def Reply.lines (r : Reply) : List Bytes := r.first ++ [r.last]

def Reply.octets (r : Reply) : Bytes := Lines.join r.lines

/-! ## the client -/

/-- sizeof(lr->buf) -/
def lrBufSize : Nat := 1024

/-- ARRAYLEN(lr->lines) -/
def lrLines : Nat := 10

/-- the results of write(2): all octets, not all of them, or -1 -/
inductive WriteResult where
  | whole
  | short
  | error
  deriving DecidableEq, Repr

/-- the client, with its queue and its line reader, and what is between it and spmd. `stream` are the
octets of spmd that were not read, `received` the commands that spmd got, `failed` the posts that
could not be written and `reported` those that the caller was told of -/
structure World where
  queue : List Job
  lines : List Bytes
  rest : Bytes
  dead : Bool
  stream : Bytes
  received : List Nat
  jobs : List Job
  calls : List (Nat × Result)
  failed : List Nat
  reported : List Nat
  deriving DecidableEq, Repr

def World.start : World := ⟨[], [], [], false, [], [], [], [], [], []⟩

/-- what a caller of the interface does -/
inductive Act where
  | post (type : JobType) (callback : Bool) (tag : Option Nat) (buf : Bytes) (result : WriteResult)
  | cancel (tag : Option Nat)
  deriving DecidableEq, Repr

/-- a caller, or `spmif_handler` when up to `n` octets are there; `acts` is what the callback does and
`next` the result of the write for the next command -/
inductive Event where
  | act (a : Act)
  | readable (n : Nat) (acts : List Act) (next : WriteResult)
  deriving DecidableEq, Repr

section
variable (answer : Nat → Reply)

/-- spmd gets a command; it answers the commands it gets in order -/
def receive (w : World) (id : Nat) : World :=
  { w with
    received := w.received ++ [id]
    stream := w.stream ++ (answer w.received.length).octets }

/-- `job_put` -/
def jobPut (w : World) (job : Job) : World := { w with queue := w.queue ++ [job] }

/-- `job_post`. It returns nothing, and its callers return 0 -/
def jobPost (w : World) (job : Job) (result : WriteResult) : World :=
  let w := { w with jobs := w.jobs ++ [job] }
  if w.queue = [] then
    match result with
    | .error => { w with failed := w.failed ++ [job.id] }
    | .short => jobPut w job
    | .whole => jobPut (receive answer w job.id) job
  else jobPut w job

def cancelJob (tag : Option Nat) (job : Job) : Job :=
  if job.tag = tag then { job with type := .canceled, callback := false, tag := none } else job

/-- `job_cancel` -/
def jobCancel (w : World) (tag : Option Nat) : World :=
  { w with
    queue := w.queue.map (cancelJob tag)
    jobs := w.jobs.take (w.jobs.length - w.queue.length) ++ w.queue.map (cancelJob tag) }

def act (w : World) : Act → World
  | .post type callback tag buf result => jobPost answer w ⟨w.jobs.length, type, callback, tag, buf⟩ result
  | .cancel tag => jobCancel w tag

/-- `job_next` -/
def jobNext (w : World) (result : WriteResult) : World :=
  match w.queue with
  | [] => w
  | job :: _ => if result = .whole then receive answer w job.id else w

/-- `search_crlf` -/
def searchCrlf : Bytes → Option Nat
  | [] => none
  | [_] => none
  | a :: b :: rest => if a = 13 ∧ b = 10 then some 0 else (searchCrlf (b :: rest)).map (· + 1)

/-- `find_line`; whether it returns 0, the lines and what is behind them -/
def findLine : Nat → List Bytes → Bytes → Bool × List Bytes × Bytes
  | 0, lines, rest => (true, lines, rest)
  | fuel + 1, lines, rest =>
    match searchCrlf rest with
    | none => (true, lines, rest)
    | some i =>
      if lrLines ≤ lines.length then (false, lines, rest)
      else findLine fuel (lines ++ [rest.take i]) (rest.drop (i + 2))

/-- the space that the buffer has left -/
def remlen (w : World) : Nat := lrBufSize - ((Lines.join w.lines).length + w.rest.length)

/-- how many lines the first reply in the buffer has -/
def replyEnd (lines : List Bytes) : Option Nat :=
  (lines.findIdx? fun l => continues l = false).map (· + 1)

/-- the callback of a command that has one and was not cancelled -/
def Job.result (job : Job) (lines : List Bytes) : Option Result :=
  if job.callback then parserep job.type lines else none

def callBack (w : World) (job : Job) (lines : List Bytes) (acts : List Act) : World :=
  match job.result lines with
  | none => w
  | some result => acts.foldl (act answer) { w with calls := w.calls ++ [(job.id, result)] }

/-- the reply is there: `spmif_handler` calls the callback, and writes the next command -/
def handleReply (w : World) (nline : Nat) (acts : List Act) (next : WriteResult) : World :=
  let lines := w.lines.take nline
  let consumed := { w with lines := w.lines.drop nline }
  match w.queue with
  | [] => consumed
  | job :: queue => jobNext answer (callBack answer { consumed with queue := queue } job lines acts) next

/-- `spmif_handler` -/
def spmifHandler (w : World) (n : Nat) (acts : List Act) (next : WriteResult) : World :=
  if remlen w = 0 then { w with dead := true }
  else
    let chunk := w.stream.take (min n (remlen w))
    let (ok, lines, rest) :=
      findLine (w.rest ++ chunk).length w.lines (w.rest ++ chunk)
    let w := { w with stream := w.stream.drop chunk.length, lines := lines, rest := rest }
    if ok = false then { w with dead := true }
    else
      match replyEnd lines with
      | none => w
      | some nline => handleReply answer w nline acts next

/-- the handler is called while octets are there and it has not returned -1 -/
def step (w : World) : Event → World
  | .act a => act answer w a
  | .readable n acts next =>
    if w.dead ∨ w.stream = [] ∨ n = 0 then w else spmifHandler answer w n acts next

/-! ## the purpose -/

/-- the call for the `i`th command: none if it was cancelled or has no callback -/
def expected (jobs : List Job) (i : Nat) : Option (Nat × Result) := do
  let job ← jobs[i]?
  let result ← job.result (answer i).lines
  pure (i, result)

/-- how many commands have been answered -/
def World.answered (w : World) : Nat := w.jobs.length - w.queue.length

/-- each command is written once, in the order of the posts; the callbacks called so far are those of
the commands answered so far, each with the reply to its own command; a post that could not be
written is reported; and when nothing remains to be read, every command has been answered -/
structure Meets (w : World) : Prop where
  once : w.received <+: List.range w.jobs.length
  calls : w.calls = (List.range w.answered).filterMap (expected answer w.jobs)
  reported : ∀ i ∈ w.failed, i ∈ w.reported
  settled : w.dead = true ∨ w.stream = [] ∧ w.lines = [] ∧ w.rest = [] →
    w.queue = [] ∧ w.received.length = w.jobs.length

/-- the reader can hold the reply -/
def Reply.Fits (r : Reply) : Prop := r.lines.length ≤ lrLines ∧ r.octets.length ≤ lrBufSize

def Act.isPost : Act → Bool
  | .post .. => true
  | .cancel _ => false

/-- every write writes the whole command; a callback posts only while another command is queued; and
the reply that is read fits -/
def Ok (w : World) : Event → Prop
  | .act (.post _ _ _ _ result) => w.queue = [] → result = .whole
  | .act (.cancel _) => True
  | .readable _ acts next =>
    (w.queue.tail = [] → ∀ a ∈ acts, a.isPost = false) ∧ (w.queue.tail ≠ [] → next = .whole) ∧
      (answer w.answered).Fits

/-! ## the reader cuts the octets into lines -/

theorem searchCrlf_none {s : Bytes} (h : searchCrlf s = none) : (Lines.split s).1 = [] := by
  induction s using searchCrlf.induct with
  | case1 => rfl
  | case2 a => rfl
  | case3 a b rest hab =>
    rw [searchCrlf, if_pos hab] at h
    cases h
  | case4 a b rest hab ih =>
    rw [searchCrlf, if_neg hab] at h
    have hnone : searchCrlf (b :: rest) = none := Option.map_eq_none_iff.mp h
    rw [Lines.split_none hab (Lines.split_eq_of_nil (ih hnone))]

theorem searchCrlf_some {s : Bytes} {i : Nat} (h : searchCrlf s = some i) :
    Lines.split s = (s.take i :: (Lines.split (s.drop (i + 2))).1,
      (Lines.split (s.drop (i + 2))).2) ∧ i + 2 ≤ s.length := by
  induction s using searchCrlf.induct generalizing i with
  | case1 => cases h
  | case2 a => cases h
  | case3 a b rest hab =>
    rw [searchCrlf, if_pos hab] at h
    obtain rfl := Option.some.inj h
    obtain ⟨rfl, rfl⟩ := hab
    exact ⟨Lines.split_crlf rest, Nat.le_add_left 2 _⟩
  | case4 a b rest hab ih =>
    rw [searchCrlf, if_neg hab] at h
    obtain ⟨j, hj, rfl⟩ := Option.map_eq_some_iff.mp h
    obtain ⟨hsplit, hlen⟩ := ih hj
    exact ⟨Lines.split_some hab hsplit, Nat.succ_le_succ hlen⟩

theorem findLine_eq (fuel : Nat) : ∀ (lines : List Bytes) (rest : Bytes), rest.length ≤ fuel →
    lines.length + (Lines.split rest).1.length ≤ lrLines →
    findLine fuel lines rest = (true, lines ++ (Lines.split rest).1, (Lines.split rest).2) := by
  induction fuel with
  | zero =>
    intro lines rest hlen _
    obtain rfl : rest = [] := List.length_eq_zero_iff.mp (Nat.le_zero.mp hlen)
    simp only [findLine, Lines.split, List.append_nil]
  | succ fuel ih =>
    intro lines rest hlen hlines
    rw [findLine]
    cases hsearch : searchCrlf rest with
    | none => rw [Lines.split_eq_of_nil (searchCrlf_none hsearch), List.append_nil]
    | some i =>
      obtain ⟨hsplit, hi⟩ := searchCrlf_some hsearch
      rw [hsplit] at hlines ⊢
      simp only [List.length_cons] at hlines
      have hroom : ¬ lrLines ≤ lines.length := by omega
      have hdrop : (rest.drop (i + 2)).length ≤ fuel := by
        rw [List.length_drop]
        omega
      have hmore : (lines ++ [rest.take i]).length + (Lines.split (rest.drop (i + 2))).1.length
          ≤ lrLines := by
        rw [List.length_append, List.length_singleton]
        omega
      simp only [if_neg hroom]
      rw [ih _ _ hdrop hmore, List.append_assoc]
      rfl

/-- more octets: the lines of all that was read -/
theorem findLine_split (part chunk : Bytes) (h : (Lines.split (part ++ chunk)).1.length ≤ lrLines) :
    findLine ((Lines.split part).2 ++ chunk).length (Lines.split part).1 ((Lines.split part).2 ++ chunk)
      = (true, Lines.split (part ++ chunk)) := by
  rw [Lines.split_append] at h ⊢
  exact findLine_eq _ _ _ (Nat.le_refl _) (by rwa [List.length_append] at h)

/-! ## the end of a reply -/

theorem Reply.isLine (r : Reply) : ∀ l ∈ r.lines, Lines.IsLine l :=
  fun l h => (r.isReply l h).isLine

theorem replyEnd_lines (r : Reply) : replyEnd r.lines = some r.lines.length := by
  have hfirst : (r.first.findIdx? fun l => continues l = false) = none := by
    refine List.findIdx?_eq_none_iff.mpr fun l hl => ?_
    simp [r.continued l hl]
  simp only [replyEnd, Reply.lines, List.findIdx?_append, hfirst, Option.none_or]
  simp [r.ended]

/-- a reply that is not there as a whole does not end -/
theorem replyEnd_part (r : Reply) {part more : Bytes} (h : part ++ more = r.octets)
    (hmore : more ≠ []) : replyEnd (Lines.split part).1 = none := by
  obtain ⟨hpre, hlt⟩ := Lines.split_part r.isLine h
  have hfirst : (Lines.split part).1 <+: r.first := by
    refine List.prefix_of_prefix_length_le hpre (List.prefix_append _ _) ?_
    have hlen := hlt hmore
    rw [Reply.lines, List.length_append, List.length_singleton] at hlen
    omega
  rw [replyEnd, Option.map_eq_none_iff, List.findIdx?_eq_none_iff]
  intro l hl
  simp [r.continued l (hfirst.subset hl)]

/-! ## the invariant -/

/-- `d` commands have been answered -/
structure Common (w : World) (d : Nat) : Prop where
  ids : w.jobs.map Job.id = List.range w.jobs.length
  le : d ≤ w.jobs.length
  queue : w.queue = w.jobs.drop d
  calls : w.calls = (List.range d).filterMap (expected answer w.jobs)
  failed : w.failed = []
  alive : w.dead = false

/-- nothing is on its way -/
structure Quiet (w : World) (d : Nat) : Prop where
  received : w.received = List.range d
  stream : w.stream = []
  lines : w.lines = []
  rest : w.rest = []

/-- the command at the head of the queue was written, and a part of its reply was read -/
structure Awaits (w : World) (d : Nat) : Prop where
  queued : d < w.jobs.length
  received : w.received = List.range (d + 1)
  reading : ∃ part, part ++ w.stream = (answer d).octets ∧ (w.lines, w.rest) = Lines.split part
  more : w.stream ≠ []

def Inv (w : World) : Prop :=
  ∃ d, Common answer w d ∧ (w.queue = [] ∧ Quiet w d ∨ Awaits answer w d)

variable {answer} {w : World} {d : Nat}

theorem Common.answered (h : Common answer w d) : w.answered = d := by
  have hle := h.le
  rw [World.answered, h.queue, List.length_drop]
  omega

theorem Common.queue_eq_nil (h : Common answer w d) : w.queue = [] ↔ d = w.jobs.length := by
  have hle := h.le
  rw [h.queue, List.drop_eq_nil_iff]
  omega

/-- the number of a command is the number of its post -/
theorem Common.id_eq (h : Common answer w d) {i : Nat} (hi : i < w.jobs.length) : w.jobs[i].id = i := by
  have hid : (w.jobs.map Job.id)[i]? = (List.range w.jobs.length)[i]? := by rw [h.ids]
  rw [List.getElem?_map, List.getElem?_eq_getElem hi, List.getElem?_range hi] at hid
  exact Option.some.inj hid

theorem Common.of_reader {w' : World} (h : Common answer w d) (hjobs : w'.jobs = w.jobs)
    (hqueue : w'.queue = w.queue) (hcalls : w'.calls = w.calls) (hfailed : w'.failed = w.failed)
    (hdead : w'.dead = w.dead) : Common answer w' d where
  ids := by rw [hjobs, h.ids]
  le := by rw [hjobs]; exact h.le
  queue := by rw [hqueue, hjobs, h.queue]
  calls := by rw [hcalls, hjobs, h.calls]
  failed := by rw [hfailed, h.failed]
  alive := by rw [hdead, h.alive]

theorem Inv.meets (h : Inv answer w) : Meets answer w := by
  obtain ⟨d, hc, hstate⟩ := h
  have hmeets : w.received <+: List.range w.jobs.length := by
    rcases hstate with ⟨hq, hquiet⟩ | hawaits
    · rw [hquiet.received, ← hc.queue_eq_nil.mp hq]
    · have hmin : min (d + 1) w.jobs.length = d + 1 := Nat.min_eq_left hawaits.queued
      rw [hawaits.received, ← hmin, ← List.take_range]
      exact List.take_prefix _ _
  refine ⟨hmeets, by rw [hc.answered, hc.calls], fun i hi => ?_, fun hend => ?_⟩
  · rw [hc.failed] at hi
    cases hi
  · rcases hend with hdead | ⟨hstream, -, -⟩
    · rw [hc.alive] at hdead
      cases hdead
    · rcases hstate with ⟨hq, hquiet⟩ | hawaits
      · refine ⟨hq, ?_⟩
        rw [hquiet.received, List.length_range, hc.queue_eq_nil.mp hq]
      · exact absurd hstream hawaits.more

theorem Inv.start : Inv answer World.start :=
  ⟨0, ⟨rfl, Nat.le_refl 0, rfl, rfl, rfl, rfl⟩, .inl ⟨rfl, rfl, rfl, rfl, rfl⟩⟩

/-! ## posts and cancellations -/

/-- the answered commands are as they were -/
theorem calls_congr {jobs jobs' : List Job} (h : ∀ i < d, jobs'[i]? = jobs[i]?) :
    (List.range d).filterMap (expected answer jobs') =
      (List.range d).filterMap (expected answer jobs) := by
  refine List.filterMap_congr fun i hi => ?_
  rw [expected, expected, h i (List.mem_range.mp hi)]

/-- a post, apart from what is written -/
theorem Common.post (h : Common answer w d) {w' : World} {job : Job} (hid : job.id = w.jobs.length)
    (hjobs : w'.jobs = w.jobs ++ [job]) (hqueue : w'.queue = w.queue ++ [job])
    (hcalls : w'.calls = w.calls) (hfailed : w'.failed = w.failed) (hdead : w'.dead = w.dead) :
    Common answer w' d where
  ids := by
    rw [hjobs, List.map_append, h.ids, List.length_append, List.length_singleton, List.range_succ,
      List.map_singleton, hid]
  le := by
    rw [hjobs, List.length_append]
    exact Nat.le_add_right_of_le h.le
  queue := by rw [hqueue, hjobs, List.drop_append_of_le_length h.le, h.queue]
  calls := by
    rw [hcalls, h.calls, hjobs]
    refine (calls_congr fun i hi => ?_).symm
    exact List.getElem?_append_left (Nat.lt_of_lt_of_le hi h.le)
  failed := by rw [hfailed, h.failed]
  alive := by rw [hdead, h.alive]

theorem cancelJob_id (tag : Option Nat) (job : Job) : (cancelJob tag job).id = job.id := by
  unfold cancelJob
  split
  · rfl
  · rfl

theorem Common.jobCancel (h : Common answer w d) (tag : Option Nat) :
    Common answer (jobCancel w tag) d := by
  have hanswered : w.jobs.length - w.queue.length = d := h.answered
  have hjobs : (Spmd.jobCancel w tag).jobs = w.jobs.take d ++ (w.jobs.drop d).map (cancelJob tag) := by
    rw [Spmd.jobCancel, hanswered, h.queue]
  have htake : (w.jobs.take d).length = d := List.length_take_of_le h.le
  have hlen : (Spmd.jobCancel w tag).jobs.length = w.jobs.length := by
    rw [hjobs, List.length_append, List.length_map, ← List.length_append, List.take_append_drop]
  have hids : Job.id ∘ cancelJob tag = Job.id := funext (cancelJob_id tag)
  constructor
  case ids =>
    rw [hlen, hjobs, List.map_append, List.map_map, hids, ← List.map_append, List.take_append_drop,
      h.ids]
  case le => exact hlen ▸ h.le
  case queue =>
    rw [hjobs, List.drop_append_of_le_length (Nat.le_of_eq htake.symm), List.drop_of_length_le
      (Nat.le_of_eq htake), List.nil_append, ← h.queue]
    rfl
  case calls =>
    rw [hjobs]
    refine h.calls.trans (calls_congr fun i hi => ?_)
    rw [List.getElem?_append_left (Nat.lt_of_lt_of_eq hi htake.symm),
      List.getElem?_take_of_lt hi]
  case failed => exact h.failed
  case alive => exact h.alive

/-- what a callback leaves as it is -/
structure Frame (w w' : World) : Prop where
  received : w'.received = w.received
  stream : w'.stream = w.stream
  lines : w'.lines = w.lines
  rest : w'.rest = w.rest
  queue : w'.queue = [] ↔ w.queue = []

theorem Frame.quiet {w' : World} (h : Frame w w') (hq : Quiet w d) : Quiet w' d where
  received := h.received.trans hq.received
  stream := h.stream.trans hq.stream
  lines := h.lines.trans hq.lines
  rest := h.rest.trans hq.rest

/-- a post to a queue that is not empty, or a cancellation: nothing is written -/
theorem act_frame (h : Common answer w d) (a : Act) (ha : w.queue = [] → a.isPost = false) :
    Common answer (act answer w a) d ∧ Frame w (act answer w a) := by
  cases a with
  | cancel tag => exact ⟨h.jobCancel tag, rfl, rfl, rfl, rfl, List.map_eq_nil_iff⟩
  | post type callback tag buf result =>
    have hq : w.queue ≠ [] := fun hq => Bool.noConfusion (ha hq)
    have hact : act answer w (.post type callback tag buf result) =
        jobPut { w with jobs := w.jobs ++ [⟨w.jobs.length, type, callback, tag, buf⟩] }
          ⟨w.jobs.length, type, callback, tag, buf⟩ := if_neg hq
    rw [hact]
    refine ⟨h.post rfl rfl rfl rfl rfl rfl, rfl, rfl, rfl, rfl, ?_⟩
    exact ⟨fun hnil => absurd (List.append_eq_nil_iff.mp hnil).2 (List.cons_ne_nil _ _), fun hnil =>
      absurd hnil hq⟩

theorem acts_frame (acts : List Act) (h : Common answer w d)
    (ha : w.queue = [] → ∀ a ∈ acts, a.isPost = false) :
    Common answer (acts.foldl (act answer) w) d ∧ Frame w (acts.foldl (act answer) w) := by
  induction acts generalizing w with
  | nil => exact ⟨h, rfl, rfl, rfl, rfl, Iff.rfl⟩
  | cons a acts ih =>
    obtain ⟨hone, hframe⟩ := act_frame h a fun hq => ha hq a List.mem_cons_self
    obtain ⟨hall, hframes⟩ := ih hone fun hq a' ha' =>
      ha (hframe.queue.mp hq) a' (List.mem_cons_of_mem a ha')
    exact ⟨hall, hframes.received.trans hframe.received, hframes.stream.trans hframe.stream,
      hframes.lines.trans hframe.lines, hframes.rest.trans hframe.rest,
      hframes.queue.trans hframe.queue⟩

/-! ## one step -/

theorem Reply.octets_ne_nil (r : Reply) : r.octets ≠ [] := by
  rw [Reply.octets, Reply.lines, Lines.join_append]
  exact fun h => absurd (List.append_eq_nil_iff.mp h).2 (by simp [Lines.join])

/-- the command at the head of the queue is written -/
theorem Quiet.receive {w' : World} (h : Quiet w d) (hqueued : d < w'.jobs.length)
    (hreceived : w'.received = w.received ++ [d])
    (hstream : w'.stream = w.stream ++ (answer w.received.length).octets)
    (hlines : w'.lines = w.lines) (hrest : w'.rest = w.rest) : Awaits answer w' d := by
  have hreply : w'.stream = (answer d).octets := by
    rw [hstream, h.stream, h.received, List.length_range, List.nil_append]
  refine ⟨hqueued, ?_, ⟨[], hreply, ?_⟩, ?_⟩
  · rw [hreceived, h.received, List.range_succ]
  · rw [hlines, hrest, h.lines, h.rest]
    rfl
  · rw [hreply]
    exact (answer d).octets_ne_nil

theorem jobNext_inv (h : Common answer w d) (hquiet : Quiet w d) {next : WriteResult}
    (hnext : w.queue ≠ [] → next = .whole) : Inv answer (jobNext answer w next) := by
  refine ⟨d, ?_⟩
  cases hq : w.queue with
  | nil =>
    rw [jobNext, hq]
    exact ⟨h, .inl ⟨hq, hquiet⟩⟩
  | cons job queue =>
    have hne : w.queue ≠ [] := hq ▸ List.cons_ne_nil job queue
    have hd : d < w.jobs.length := Nat.lt_of_le_of_ne h.le (mt h.queue_eq_nil.mpr hne)
    have hjob : job = w.jobs[d] := by
      have hdrop := h.queue
      rw [hq, List.drop_eq_getElem_cons hd] at hdrop
      exact (List.cons.inj hdrop).1
    have hid : job.id = d := hjob ▸ h.id_eq hd
    rw [jobNext, hq]
    simp only [if_pos (hnext hne)]
    refine ⟨h.of_reader rfl rfl rfl rfl rfl, .inr (hquiet.receive hd ?_ rfl rfl rfl)⟩
    rw [receive, hid]

/-- nothing is written: the reply that was awaited is awaited -/
theorem act_inv (h : Inv answer w) (a : Act) (ha : w.queue = [] → a.isPost = false) :
    Inv answer (act answer w a) := by
  obtain ⟨d, hc, hstate⟩ := h
  obtain ⟨hcommon, hframe⟩ := act_frame hc a ha
  refine ⟨d, hcommon, ?_⟩
  rcases hstate with ⟨hnil, hquiet⟩ | hawaits
  · exact .inl ⟨hframe.queue.mpr hnil, hframe.quiet hquiet⟩
  · have hne : w.queue ≠ [] := mt hc.queue_eq_nil.mp (Nat.ne_of_lt hawaits.queued)
    refine .inr ⟨?_, ?_, ?_, ?_⟩
    · exact Nat.lt_of_le_of_ne hcommon.le (mt hcommon.queue_eq_nil.mpr (mt hframe.queue.mp hne))
    · rw [hframe.received, hawaits.received]
    · rw [hframe.stream, hframe.lines, hframe.rest]
      exact hawaits.reading
    · rw [hframe.stream]
      exact hawaits.more

theorem post_inv (h : Inv answer w) {type : JobType} {callback : Bool} {tag : Option Nat} {buf : Bytes}
    {result : WriteResult} (hok : w.queue = [] → result = .whole) :
    Inv answer (act answer w (.post type callback tag buf result)) := by
  by_cases hq : w.queue = []
  · obtain rfl := hok hq
    obtain ⟨d, hc, hstate⟩ := h
    have hquiet : Quiet w d := by
      rcases hstate with ⟨-, hquiet⟩ | hawaits
      · exact hquiet
      · exact absurd (hc.queue_eq_nil.mp hq) (Nat.ne_of_lt hawaits.queued)
    have hd := hc.queue_eq_nil.mp hq
    have hact : act answer w (.post type callback tag buf .whole) =
        jobPut (receive answer { w with jobs := w.jobs ++ [⟨w.jobs.length, type, callback, tag, buf⟩] }
          w.jobs.length) ⟨w.jobs.length, type, callback, tag, buf⟩ := if_pos hq
    rw [hact]
    refine ⟨d, hc.post rfl rfl rfl rfl rfl rfl, .inr (hquiet.receive ?_ ?_ rfl rfl rfl)⟩
    · simp only [jobPut, receive, List.length_append, List.length_singleton]
      omega
    · simp only [jobPut, receive, hd]
  · exact act_inv h _ fun hnil => absurd hnil hq

/-- the callback is called with the reply to its command -/
theorem callBack_common (hids : w.jobs.map Job.id = List.range w.jobs.length) (hd : d < w.jobs.length)
    (hqueue : w.queue = w.jobs.drop (d + 1))
    (hcalls : w.calls = (List.range d).filterMap (expected answer w.jobs)) (hfailed : w.failed = [])
    (halive : w.dead = false) (hid : w.jobs[d].id = d) {acts : List Act}
    (hacts : w.queue = [] → ∀ a ∈ acts, a.isPost = false) :
    Common answer (callBack answer w w.jobs[d] (answer d).lines acts) (d + 1) ∧
      Frame w (callBack answer w w.jobs[d] (answer d).lines acts) := by
  have hexpected : expected answer w.jobs d = (w.jobs[d].result (answer d).lines).bind
      fun result => some (d, result) := by
    rw [expected, List.getElem?_eq_getElem hd]
    rfl
  have hrange : (List.range (d + 1)).filterMap (expected answer w.jobs) =
      w.calls ++ (expected answer w.jobs d).toList := by
    rw [List.range_succ, List.filterMap_append, ← hcalls]
    cases hcall : expected answer w.jobs d with
    | none => simp [hcall]
    | some c => simp [hcall]
  unfold callBack
  cases hresult : w.jobs[d].result (answer d).lines with
  | none =>
    rw [hresult] at hexpected
    rw [hexpected] at hrange
    refine ⟨⟨hids, hd, hqueue, ?_, hfailed, halive⟩, rfl, rfl, rfl, rfl, Iff.rfl⟩
    rw [hrange]
    exact (List.append_nil _).symm
  | some result =>
    rw [hresult] at hexpected
    rw [hexpected] at hrange
    have hcommon : Common answer { w with calls := w.calls ++ [(w.jobs[d].id, result)] } (d + 1) := by
      refine ⟨hids, hd, hqueue, ?_, hfailed, halive⟩
      rw [hid]
      exact hrange.symm
    obtain ⟨hcommon, hframe⟩ := acts_frame acts hcommon hacts
    exact ⟨hcommon, hframe.received, hframe.stream, hframe.lines, hframe.rest, hframe.queue⟩

/-- the reply to the command at the head of the queue is there -/
theorem handleReply_inv (h : Common answer w d) (hqueued : d < w.jobs.length)
    (hreceived : w.received = List.range (d + 1)) (hstream : w.stream = [])
    (hlines : w.lines = (answer d).lines) (hrest : w.rest = []) {acts : List Act} {next : WriteResult}
    (hacts : w.queue.tail = [] → ∀ a ∈ acts, a.isPost = false)
    (hnext : w.queue.tail ≠ [] → next = .whole) :
    Inv answer (handleReply answer w w.lines.length acts next) := by
  have hq : w.queue = w.jobs[d] :: w.jobs.drop (d + 1) :=
    h.queue.trans (List.drop_eq_getElem_cons hqueued)
  rw [hq, List.tail_cons] at hacts hnext
  rw [handleReply, hq]
  simp only [List.take_length, List.drop_length]
  rw [hlines]
  obtain ⟨hcommon, hframe⟩ := @callBack_common answer
    { w with lines := [], queue := w.jobs.drop (d + 1) } d h.ids hqueued rfl h.calls h.failed h.alive
    (h.id_eq hqueued) acts hacts
  exact jobNext_inv hcommon (hframe.quiet ⟨hreceived, hstream, rfl, hrest⟩) fun hne =>
    hnext (mt hframe.queue.mpr hne)

theorem Awaits.remlen (h : Awaits answer w d) (hfits : (answer d).Fits) : remlen w ≠ 0 := by
  obtain ⟨part, hpart, hsplit⟩ := h.reading
  have hjoin : Lines.join w.lines ++ w.rest = part := by
    have hall := Lines.join_split part
    rwa [← hsplit] at hall
  have hlen := congrArg List.length hpart
  have hread := congrArg List.length hjoin
  have hmore := List.length_pos_iff.mpr h.more
  have hbuf := hfits.2
  rw [List.length_append] at hlen hread
  unfold Spmd.remlen
  omega

theorem spmifHandler_inv (hc : Common answer w d) (h : Awaits answer w d) {n : Nat} (hn : n ≠ 0)
    {acts : List Act} {next : WriteResult} (hok : Ok answer w (.readable n acts next)) :
    Inv answer (spmifHandler answer w n acts next) := by
  obtain ⟨hacts, hnext, hfits⟩ := hok
  rw [hc.answered] at hfits
  have hrem := h.remlen hfits
  obtain ⟨part, hpart, hsplit⟩ := h.reading
  obtain ⟨hlines, hrest⟩ := Prod.mk.inj hsplit
  rw [spmifHandler, if_neg hrem]
  -- what read(2) takes from the stream
  have htaken : w.stream.take (min n (Spmd.remlen w)) <+: w.stream := List.take_prefix _ _
  generalize w.stream.take (min n (Spmd.remlen w)) = chunk at htaken
  obtain ⟨more, hmore⟩ := htaken
  have hdrop : w.stream.drop chunk.length = more := by rw [← hmore, List.drop_left]
  have hwhole : part ++ chunk ++ more = (answer d).octets := by rw [List.append_assoc, hmore, hpart]
  have hten : (Lines.split (part ++ chunk)).1.length ≤ lrLines :=
    Nat.le_trans (Lines.split_part (answer d).isLine hwhole).1.length_le hfits.1
  simp only [hlines, hrest, hdrop, findLine_split part chunk hten, Bool.true_eq_false, if_false]
  by_cases hend : more = []
  · -- the whole reply was read
    rw [hend, List.append_nil] at hwhole
    have hall : Lines.split (part ++ chunk) = ((answer d).lines, []) := by
      rw [hwhole]
      exact Lines.split_join (answer d).isLine
    simp only [hall, replyEnd_lines]
    exact @handleReply_inv answer { w with stream := more, lines := (answer d).lines, rest := [] } d
      (hc.of_reader rfl rfl rfl rfl rfl) h.queued h.received hend rfl rfl acts next hacts hnext
  · simp only [replyEnd_part (answer d) hwhole hend]
    exact ⟨d, hc.of_reader rfl rfl rfl rfl rfl, .inr ⟨h.queued, h.received, ⟨_, hwhole, rfl⟩, hend⟩⟩

theorem step_inv (w : World) (e : Event) (h : Inv answer w) (hok : Ok answer w e) :
    Inv answer (step answer w e) := by
  cases e with
  | act a =>
    cases a with
    | post type callback tag buf result => exact post_inv h hok
    | cancel tag => exact act_inv h (.cancel tag) fun _ => rfl
  | readable n acts next =>
    rw [step]
    split
    · exact h
    · rename_i hread
      obtain ⟨-, hstream, hn⟩ := not_or.mp hread |>.imp_right not_or.mp
      obtain ⟨d, hc, ⟨-, hquiet⟩ | hawaits⟩ := h
      · exact absurd hquiet.stream hstream
      · exact spmifHandler_inv hc hawaits hn hok

end

/-! ## whole runs -/

instance (r : Reply) : Decidable r.Fits := inferInstanceAs (Decidable (_ ∧ _))

instance (answer : Nat → Reply) (w : World) (e : Event) : Decidable (Ok answer w e) :=
  match e with
  | .act (.post _ _ _ _ _) => inferInstanceAs (Decidable (_ → _))
  | .act (.cancel _) => inferInstanceAs (Decidable True)
  | .readable _ _ _ => inferInstanceAs (Decidable (_ ∧ _ ∧ _))

/-- in a run where every write writes its command as a whole, a callback posts only while another
command is queued, and the replies fit the reader, each command is written once and each callback
gets the reply to its own command -/
theorem commands_and_replies_aligned (answer : Nat → Reply) (events : List Event)
    (h : Run.Meets (step answer) (Ok answer) World.start events) :
    ∀ w ∈ Run.states (step answer) World.start events, Meets answer w := by
  intro w hw
  exact (Run.states_inv step_inv events World.start Inv.start h w hw).meets

/-- "250 ok" -/
def okReply : Reply where
  first := []
  last := [50, 53, 48, 32, 111, 107]
  isReply := List.forall_mem_singleton.mpr ⟨rfl, by decide, by decide⟩
  continued := List.forall_mem_nil _
  ended := rfl

/-- a reply in two parts, while another command waits; its callback posts a third one -/
def threeCommands : List Event :=
  [.act (.post .slid true none [1] .whole), .act (.post .slid true (some 7) [2] .error),
    .readable 5 [] .whole, .readable 9 [.post .migrate true none [3] .short] .whole,
    .act (.cancel (some 7)), .readable 9 [] .whole]

theorem commands_and_replies_aligned_three :
    Run.Meets (step fun _ => okReply) (Ok fun _ => okReply) World.start threeCommands ∧
    ∀ w ∈ Run.states (step fun _ => okReply) World.start threeCommands, Meets (fun _ => okReply) w :=
  ⟨by decide, commands_and_replies_aligned (fun _ => okReply) threeCommands (by decide)⟩

/-- a callback that posts to the empty queue: the command is written by `job_post`, and again when the
callback has returned. And a write that fails: nobody is told -/
theorem posted_by_callback_written_twice :
    (∃ w ∈ Run.states (step fun _ => okReply) World.start
        [.act (.post .slid true none [1] .whole), .readable 8 [.post .slid true none [2] .whole] .whole],
      w.received = [0, 1, 1] ∧ ¬ Meets (fun _ => okReply) w) ∧
    ∃ w ∈ Run.states (step fun _ => okReply) World.start [.act (.post .slid true none [1] .error)],
      w.failed = [0] ∧ w.reported = [] ∧ ¬ Meets (fun _ => okReply) w := by
  constructor
  · refine ⟨_, Run.foldl_mem_states _ _, by decide, fun h => ?_⟩
    exact absurd h.once (by decide)
  · refine ⟨_, Run.foldl_mem_states _ _, by decide, by decide, fun h => ?_⟩
    exact absurd (h.reported 0 (by decide)) (by decide)

end Spmd
