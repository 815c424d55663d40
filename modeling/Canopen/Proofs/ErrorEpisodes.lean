import Canopen.Errors
import Canopen.Register

/-! # Episodes of errors

An episode of an error begins with a report of a kind that is not active, and ends when the kind is
reset or all errors are cleared.  An error status forwards the report that begins an episode and drops
the others.  What it forwards, and which kinds are active, is said here by the calls alone
(`ErrorCall.episodes`, `ErrorCall.activeAfter`); `ErrorStatus.episodes_forwarded` says that the status
agrees with that after any calls.

The active kinds can be kept in one word, in which each kind has a bit, and a call changes a bit only if
it finds it the other way.  An error status that keeps them so (`ErrorWord`) does the same at every call
(`ErrorWord.call_inWord`). -/

namespace Canopen

/-- A call of an error status. -/
inductive ErrorCall where
  | report (r : ErrorReport)
  /-- The information is for the log alone. -/
  | reset (kind : ErrorKind) (info : UInt32)
  | clear
deriving DecidableEq, Repr

/-! ### Calls -/

namespace ErrorCall

/-- Does the call make the kind active or inactive? -/
def affects (c : ErrorCall) (kind : ErrorKind) : Bool :=
  match c with
  | report r => r.kind == kind
  | reset k _ => k == kind
  | clear => true

def isReport : ErrorCall → Bool
  | report _ => true
  | reset _ _ | clear => false

/-- Is the kind active after the calls?  It is if the last of them that affects it is a report. -/
def activeAfter (start : ErrorKind → Bool) (cs : List ErrorCall) (kind : ErrorKind) : Bool :=
  (cs.filter fun c => c.affects kind).getLast?.elim (start kind) isReport

/-- The report with which a call begins an episode, after the calls before it. -/
def opened (start : ErrorKind → Bool) (past : List ErrorCall) : ErrorCall → Option ErrorReport
  | report r => if activeAfter start past r.kind then none else some r
  | reset _ _ | clear => none

/-- The reports with which episodes begin, in order. -/
def episodes (start : ErrorKind → Bool) (cs : List ErrorCall) : List ErrorReport :=
  (List.range cs.length).filterMap fun i => cs[i]?.bind (opened start (cs.take i))

variable {start : ErrorKind → Bool}

theorem activeAfter_nil : activeAfter start [] = start := rfl

theorem activeAfter_singleton (c : ErrorCall) (kind : ErrorKind) :
    activeAfter start [c] kind = if c.affects kind then c.isReport else start kind := by
  unfold activeAfter
  rw [List.filter_cons]
  split <;> rfl

theorem activeAfter_cons (c : ErrorCall) (cs : List ErrorCall) :
    activeAfter start (c :: cs) = activeAfter (activeAfter start [c]) cs := by
  funext kind
  have hone : activeAfter start [c] kind = _ := activeAfter_singleton c kind
  unfold activeAfter at hone ⊢
  rw [hone, List.filter_cons]
  split
  · rw [List.getLast?_cons]
    cases (cs.filter fun c => c.affects kind).getLast? <;> rfl
  · rfl

theorem opened_cons (c : ErrorCall) (past : List ErrorCall) :
    opened start (c :: past) = opened (activeAfter start [c]) past := by
  funext c'
  cases c' with
  | report r =>
      unfold opened
      rw [activeAfter_cons]
  | reset kind info => rfl
  | clear => rfl

theorem episodes_cons (c : ErrorCall) (cs : List ErrorCall) :
    episodes start (c :: cs) =
      (opened start [] c).toList ++ episodes (activeAfter start [c]) cs := by
  have hrest : (fun i => (c :: cs)[i]?.bind (opened start ((c :: cs).take i))) ∘ Nat.succ =
      fun i => cs[i]?.bind (opened (activeAfter start [c]) (cs.take i)) := by
    funext i
    show cs[i]?.bind (opened start (c :: cs.take i)) = _
    rw [opened_cons]
  unfold episodes
  have hfirst : (c :: cs)[0]?.bind (opened start ((c :: cs).take 0)) = opened start [] c := rfl
  rw [List.length_cons, List.range_succ_eq_map, List.filterMap_cons, List.filterMap_map, hrest,
    hfirst]
  cases opened start [] c with
  | none => rfl
  | some r => rfl

theorem episodes_append (cs cs' : List ErrorCall) :
    episodes start (cs ++ cs') = episodes start cs ++ episodes (activeAfter start cs) cs' := by
  induction cs generalizing start with
  | nil => rfl
  | cons c cs ih =>
      rw [List.cons_append, episodes_cons, episodes_cons, ih, activeAfter_cons c cs,
        List.append_assoc]

end ErrorCall

/-! ### Error statuses -/

namespace ErrorStatus

/-- The status after a call. -/
def call (e : ErrorStatus) : ErrorCall → ErrorStatus
  | .report r => e.report r.kind r.code r.info
  | .reset kind _ => e.reset kind
  | .clear => e.clear

/-- The status after calls. -/
def run (e : ErrorStatus) (cs : List ErrorCall) : ErrorStatus := cs.foldl call e

/-- A call settles the kinds that it affects, and no other. -/
theorem isActive_call (e : ErrorStatus) (c : ErrorCall) :
    (e.call c).isActive = ErrorCall.activeAfter e.isActive [c] := by
  funext kind
  rw [ErrorCall.activeAfter_singleton]
  cases c with
  | report r =>
      show (e.report r.kind r.code r.info).isActive kind = _
      rw [isActive_report]
      by_cases hk : kind = r.kind
      · subst hk
        simp [ErrorCall.affects, ErrorCall.isReport]
      · simp [ErrorCall.affects, hk, Ne.symm hk]
  | reset k info =>
      show (e.reset k).isActive kind = _
      rw [isActive_reset]
      by_cases hk : kind = k
      · subst hk
        simp [ErrorCall.affects, ErrorCall.isReport]
      · simp [ErrorCall.affects, hk, Ne.symm hk]
  | clear => exact ErrorSet.contains_empty kind

theorem forwarded_call (e : ErrorStatus) (c : ErrorCall) :
    (e.call c).forwarded = e.forwarded ++ (ErrorCall.opened e.isActive [] c).toList := by
  cases c with
  | report r =>
      unfold call report ErrorCall.opened
      rw [ErrorCall.activeAfter_nil]
      dsimp only
      split
      · exact (List.append_nil _).symm
      · rfl
  | reset kind info => exact (List.append_nil _).symm
  | clear => exact (List.append_nil _).symm

theorem lastReport_call (e : ErrorStatus) {c : ErrorCall} (h : c ≠ .clear) :
    (e.call c).lastReport = (ErrorCall.opened e.isActive [] c).or e.lastReport := by
  cases c with
  | report r =>
      unfold call report ErrorCall.opened
      rw [ErrorCall.activeAfter_nil]
      dsimp only
      split
      · rfl
      · rfl
  | reset kind info => rfl
  | clear => exact absurd rfl h

theorem isActive_run (e : ErrorStatus) (cs : List ErrorCall) :
    (e.run cs).isActive = ErrorCall.activeAfter e.isActive cs := by
  induction cs generalizing e with
  | nil => rfl
  | cons c cs ih =>
      rw [ErrorCall.activeAfter_cons, ← e.isActive_call]
      exact ih (e.call c)

theorem forwarded_run (e : ErrorStatus) (cs : List ErrorCall) :
    (e.run cs).forwarded = e.forwarded ++ ErrorCall.episodes e.isActive cs := by
  induction cs generalizing e with
  | nil => exact (List.append_nil _).symm
  | cons c cs ih =>
      rw [ErrorCall.episodes_cons, ← e.isActive_call, ← List.append_assoc, ← e.forwarded_call]
      exact ih (e.call c)

/-- The last report is the one that was forwarded last. -/
theorem lastReport_run (e : ErrorStatus) {cs : List ErrorCall} (h : .clear ∉ cs) :
    (e.run cs).lastReport = (ErrorCall.episodes e.isActive cs).getLast?.or e.lastReport := by
  induction cs generalizing e with
  | nil => rfl
  | cons c cs ih =>
      obtain ⟨hc, hcs⟩ := not_or.mp (mt List.mem_cons.mpr h)
      have hfirst : (ErrorCall.opened e.isActive [] c).toList.getLast? =
          ErrorCall.opened e.isActive [] c := by
        cases ErrorCall.opened e.isActive [] c <;> rfl
      rw [ErrorCall.episodes_cons, List.getLast?_append, hfirst, Option.or_assoc,
        ← e.lastReport_call (Ne.symm hc), ← e.isActive_call]
      exact ih (e.call c) hcs

end ErrorStatus

/-! ### Active kinds in one word -/

/-- The bit of a kind. -/
def ErrorKind.mask (kind : ErrorKind) : UInt32 :=
  1 <<< (kind.statusBit - ErrorKind.canTxOverflow.statusBit).toUInt32

/-- The word with the bits of the kinds in a set. -/
def ErrorSet.word (s : ErrorSet) : UInt32 := (s.toList.map ErrorKind.mask).foldl (· ||| ·) 0

/-- An error status that keeps the active kinds in one word. -/
structure ErrorWord where
  active : Register UInt32
  lastReport : Option ErrorReport
  forwarded : List ErrorReport
deriving DecidableEq, Repr

namespace ErrorWord

def isActive (e : ErrorWord) (kind : ErrorKind) : Bool := e.active.value &&& kind.mask != 0

/-- Set a bit that is not set. -/
def setBit (mask bits : UInt32) : Option UInt32 :=
  if bits &&& mask = 0 then some (bits ||| mask) else none

/-- Clear a bit that is set. -/
def clearBit (mask bits : UInt32) : Option UInt32 :=
  if bits &&& mask ≠ 0 then some (bits &&& ~~~mask) else none

/-- The status after a call. -/
def call (e : ErrorWord) : ErrorCall → ErrorWord
  | .report r =>
    match e.active.update? (setBit r.kind.mask) with
    | (.error _, _) => e
    | (.ok _, active) => ⟨active, some r, e.forwarded ++ [r]⟩
  | .reset kind _ => { e with active := (e.active.update? (clearBit kind.mask)).2 }
  | .clear => { e with active := e.active.store 0, lastReport := none }

/-- The status after calls. -/
def run (e : ErrorWord) (cs : List ErrorCall) : ErrorWord := cs.foldl call e

end ErrorWord

/-- The status with its active kinds in one word. -/
def ErrorStatus.inWord (e : ErrorStatus) : ErrorWord := ⟨⟨e.active.word⟩, e.lastReport, e.forwarded⟩

namespace ErrorSet

variable {s : ErrorSet} {kind : ErrorKind}

theorem word_and_mask : (s.word &&& kind.mask != 0) = s.contains kind := by
  obtain ⟨a, b, c, d⟩ := s
  cases a <;> cases b <;> cases c <;> cases d <;> cases kind <;> decide

theorem setBit_word : ErrorWord.setBit kind.mask s.word =
    if s.contains kind then none else some (s.assign kind true).word := by
  obtain ⟨a, b, c, d⟩ := s
  cases a <;> cases b <;> cases c <;> cases d <;> cases kind <;> decide

theorem clearBit_word : ErrorWord.clearBit kind.mask s.word =
    if s.contains kind then some (s.assign kind false).word else none := by
  obtain ⟨a, b, c, d⟩ := s
  cases a <;> cases b <;> cases c <;> cases d <;> cases kind <;> decide

end ErrorSet

namespace ErrorWord

theorem isActive_inWord (e : ErrorStatus) (kind : ErrorKind) :
    e.inWord.isActive kind = e.isActive kind := ErrorSet.word_and_mask

/-- Both ways to keep the active kinds come to the same at every call. -/
theorem call_inWord (e : ErrorStatus) (c : ErrorCall) : e.inWord.call c = (e.call c).inWord := by
  cases c with
  | report r =>
      have hbit : setBit r.kind.mask e.inWord.active.value = _ := ErrorSet.setBit_word
      unfold call Register.update? ErrorStatus.call ErrorStatus.report ErrorStatus.isActive
      dsimp only
      rw [hbit]
      cases e.active.contains r.kind with
      | true => rfl
      | false => rfl
  | reset kind info =>
      have hbit : clearBit kind.mask e.inWord.active.value = _ := ErrorSet.clearBit_word
      unfold call Register.update? ErrorStatus.call ErrorStatus.reset
      dsimp only
      rw [hbit]
      cases hactive : e.active.contains kind with
      | true => rfl
      | false =>
          rw [ErrorSet.assign_of_contains hactive]
          rfl
  | clear => rfl

theorem run_inWord (e : ErrorStatus) (cs : List ErrorCall) : e.inWord.run cs = (e.run cs).inWord := by
  induction cs generalizing e with
  | nil => rfl
  | cons c cs ih =>
      show (e.inWord.call c).run cs = _
      rw [call_inWord]
      exact ih (e.call c)

end ErrorWord

/-! ### Any calls -/

/-- **Every episode of an error is forwarded once.**  This is about any calls, from any state.
Forwarded are, in order, the reports whose kind is inactive at that moment, and a kind is active if the
last call that affects it is a report.  The last report is the one that was forwarded last since the
errors were cleared.  A call about one kind leaves the others as they are.  All this is so whether the
active kinds are kept one by one or in one word. -/
theorem ErrorStatus.episodes_forwarded (e : ErrorStatus) (cs : List ErrorCall) :
    (e.run cs).forwarded = e.forwarded ++ ErrorCall.episodes e.isActive cs ∧
      (∀ kind, (e.run cs).isActive kind = ErrorCall.activeAfter e.isActive cs kind) ∧
      (.clear ∉ cs →
        (e.run cs).lastReport = (ErrorCall.episodes e.isActive cs).getLast?.or e.lastReport) ∧
      (∀ past since, cs = past ++ .clear :: since → .clear ∉ since →
        ErrorCall.episodes e.isActive cs =
            ErrorCall.episodes e.isActive past ++ ErrorCall.episodes (fun _ => false) since ∧
          (e.run cs).lastReport = (ErrorCall.episodes (fun _ => false) since).getLast?) ∧
      (∀ (c : ErrorCall) kind, c.affects kind = false →
        ((e.run cs).call c).isActive kind = (e.run cs).isActive kind) ∧
      e.inWord.run cs = (e.run cs).inWord ∧
      ∀ kind, (e.run cs).inWord.isActive kind = (e.run cs).isActive kind := by
  refine ⟨e.forwarded_run cs, congrFun (e.isActive_run cs), e.lastReport_run, ?_, ?_,
    ErrorWord.run_inWord e cs, ErrorWord.isActive_inWord (e.run cs)⟩
  · rintro past since rfl hsince
    have hcleared : ErrorCall.activeAfter (ErrorCall.activeAfter e.isActive past) [.clear] =
        fun _ => false := rfl
    constructor
    · rw [ErrorCall.episodes_append, ErrorCall.episodes_cons, hcleared]
      rfl
    · have hrun : e.run (past ++ .clear :: since) = (e.run past).clear.run since := by
        unfold run
        rw [List.foldl_append]
        rfl
      have hinactive : (e.run past).clear.isActive = fun _ => false :=
        funext ErrorSet.contains_empty
      rw [hrun, lastReport_run _ hsince, hinactive]
      exact Option.or_none
  · intro c kind hc
    rw [isActive_call, ErrorCall.activeAfter_singleton, if_neg (by simp [hc])]

/-- A report is repeated, another kind is reported, the first is reset and reported again; then all
errors are cleared. -/
def disturbance : List ErrorCall :=
  [.report ⟨.syncTimeout, 0x8100, 100⟩, .report ⟨.syncTimeout, 0x8100, 200⟩,
    .report ⟨.syncLength, 0x8240, 2⟩, .reset .syncTimeout 0, .report ⟨.syncTimeout, 0x8100, 300⟩,
    .clear]

theorem ErrorStatus.episodes_forwarded_disturbance :
    let e := ErrorStatus.fresh.run (disturbance ++ [.report ⟨.syncLength, 0x8240, 4⟩])
    e.forwarded.map ErrorReport.info = [100, 2, 300, 4] ∧
      (ErrorStatus.fresh.run (disturbance.take 5)).lastReport = some ⟨.syncTimeout, 0x8100, 300⟩ ∧
      e.lastReport = some ⟨.syncLength, 0x8240, 4⟩ ∧
      (e.call (.reset .syncTimeout 0)).isActive .syncLength = true := by
  intro e
  obtain ⟨hforwarded, hactive, _, hsince, hothers, _⟩ :=
    ErrorStatus.fresh.episodes_forwarded (disturbance ++ [.report ⟨.syncLength, 0x8240, 4⟩])
  obtain ⟨_, _, hlast, _⟩ := ErrorStatus.fresh.episodes_forwarded (disturbance.take 5)
  obtain ⟨_, hagain⟩ := hsince (disturbance.take 5) [.report ⟨.syncLength, 0x8240, 4⟩] rfl (by decide)
  refine ⟨?_, (hlast (by decide)).trans rfl, hagain.trans rfl,
    (hothers _ _ rfl).trans ((hactive .syncLength).trans rfl)⟩
  rw [hforwarded]
  rfl

end Canopen
