/-
# LogThread — the queue between the threads that log and the one that prints

`log` puts an entry into a queue under a mutex and then notifies a condition variable; the log thread
waits there, takes the entries out and prints them with the mutex released. The destructor clears the
flag `running`, notifies, and joins the thread; it does not take the mutex. The state machine below
interleaves any number of calls of `log`, the log thread and the destructor, one access to the shared
data at a time. A notification reaches the thread only if it is asleep, and the thread may wake up
without one.

Runs start when the logger has been constructed. The constructor starts the log thread before the
queue, the mutex and the condition variable are constructed, and nothing is said here of a thread that
comes to them earlier than that.

`everything_is_printed`: as long as the destructor does not run, nothing is lost and nothing stays
behind. `shutdown`: the destructor hangs exactly if it notifies while the log thread is about to fall
asleep, and it leaves entries unprinted exactly if the thread has just finished a round.
-/
import TinyIM.Log
import TinyIM.Lib.Runs

namespace TinyIM

open TinyIM.Lib.Text TinyIM.Lib.Runs

/-! ## The logger -/

/-- What the log thread does next. -/
inductive LogThread where
  /-- `while (running)`. -/
  | check
  /-- Lock the mutex. -/
  | lock
  /-- The predicate of `cv.wait`, with the mutex locked. -/
  | test
  /-- The predicate did not hold: fall asleep and unlock the mutex. -/
  | block
  | asleep
  /-- Notified: lock the mutex again. -/
  | woken
  /-- `while (!log_queue.empty())`, with the mutex locked. -/
  | drain
  /-- Print the entry, with the mutex unlocked. -/
  | print (entry : LogEntry)
  /-- Lock the mutex again. -/
  | relock
  | ended
  deriving DecidableEq

/-- How far the destructor is. -/
inductive Stopping where
  | no
  /-- `running = false` is done. -/
  | flagged
  /-- `cv.notify_all()` is done: the destructor joins the thread. -/
  | notified
  deriving DecidableEq

/-- The logger. -/
structure Logger where
  log_level : LogLevel
  running : Bool
  log_queue : List LogEntry
  log_thread : LogThread
  /-- The calls of `log` between the push and the notification. -/
  notifying : Nat
  stopping : Stopping
  /-- What has been written to `std::cout`. -/
  cout : Bytes
  deriving DecidableEq

namespace Logger

/-- `::tolower`. -/
def tolower (c : UInt8) : UInt8 := if 65 ≤ c ∧ c ≤ 90 then c + 32 else c

/-- The level a text stands for; `DEBUG` for an invalid one. -/
def setLogLevel (level : Bytes) : LogLevel :=
  let level_lower := level.map tolower
  if level_lower = str "debug" then .DEBUG
  else if level_lower = str "info" then .INFO
  else if level_lower = str "warning" then .WARNING
  else if level_lower = str "error" then .ERROR
  else .DEBUG

/-- The name of a level, and the escape sequence of its color. -/
def levelText : LogLevel → Bytes × Bytes
  | .DEBUG => (str "DEBUG", str "\x1b[1;34m")
  | .INFO => (str "INFO", str "\x1b[1;32m")
  | .WARNING => (str "WARNING", str "\x1b[1;33m")
  | .ERROR => (str "ERROR", str "\x1b[1;31m")

/-- The line that is written for an entry. -/
def printLog (entry : LogEntry) : Bytes :=
  (levelText entry.level).2 ++ str "[" ++ (levelText entry.level).1 ++ str "] " ++ entry.message ++
    str "\x1b[0m" ++ str "\n"

/-- What the constructor writes. -/
def displayBanner : Bytes :=
  str "**********************\n" ++ str "* Welcome to Tiny-IM *\n" ++ str "**********************\n"

/-- The logger has been constructed. The log thread has been started before the members it uses were
constructed, and has not come to them yet. -/
def constructed : Logger := ⟨.DEBUG, true, [], .check, 0, .no, displayBanner⟩

/-- The log thread holds the mutex. -/
def holdsMutex (l : Logger) : Bool := l.log_thread = .test ∨ l.log_thread = .block ∨ l.log_thread = .drain

/-- The thread that sleeps at the condition variable, if there is one, wakes up. -/
def notify (l : Logger) : Logger :=
  if l.log_thread = .asleep then { l with log_thread := .woken } else l

/-- The next step of the log thread. -/
def processEntries (l : Logger) : Logger :=
  match l.log_thread with
  | .check => { l with log_thread := if l.running then .lock else .ended }
  | .lock => { l with log_thread := .test }
  | .test => { l with log_thread := if l.log_queue ≠ [] ∨ l.running = false then .drain else .block }
  | .block => { l with log_thread := .asleep }
  | .asleep => l
  | .woken => { l with log_thread := .test }
  | .drain =>
    match l.log_queue with
    | [] => { l with log_thread := .check }
    | entry :: rest => { l with log_queue := rest, log_thread := .print entry }
  | .print entry => { l with cout := l.cout ++ printLog entry, log_thread := .relock }
  | .relock => { l with log_thread := .drain }
  | .ended => l

/-- What the threads do. -/
inductive Event where
  | setLogLevel (level : Bytes)
  /-- A call of `log`, up to the unlocking of the mutex. -/
  | log (level : LogLevel) (file : Bytes) (line : Int) (func format : Bytes) (args : List Bytes)
  /-- The rest of a call of `log`. -/
  | notifyOne
  | processEntries
  | wakeUp
  /-- `running = false`. -/
  | clearRunning
  | notifyAll

/-- The entry an event puts into the queue. -/
def pushed (l : Logger) : Event → List LogEntry
  | .log level file line func format args =>
    if l.holdsMutex then [] else (log l.log_level level file line func format args).toList
  | _ => []

/-- One event. One that cannot happen now does nothing; a call of `log` below the level puts nothing
into the queue, and notifies nobody. -/
def step (l : Logger) : Event → Logger
  | .setLogLevel level => { l with log_level := setLogLevel level }
  | .log level file line func format args =>
    { l with
      log_queue := l.log_queue ++ l.pushed (.log level file line func format args)
      notifying := l.notifying + (l.pushed (.log level file line func format args)).length }
  | .notifyOne => if l.notifying = 0 then l else { l.notify with notifying := l.notifying - 1 }
  | .processEntries => l.processEntries
  | .wakeUp => l.notify
  | .clearRunning => if l.stopping = .no then { l with running := false, stopping := .flagged } else l
  | .notifyAll => if l.stopping = .flagged then { l.notify with stopping := .notified } else l

/-! ## Nothing is lost, doubled or reordered -/

/-- The entry that the log thread has taken out and not printed yet. -/
def inHand (l : Logger) : List LogEntry :=
  match l.log_thread with
  | .print entry => [entry]
  | _ => []

/-- The entries put into the queue are those that have been printed, the one in hand and those in the
queue, in this order. -/
def Accounted (entries : List LogEntry) (l : Logger) : Prop :=
  ∃ printed, entries = printed ++ (l.inHand ++ l.log_queue) ∧
    l.cout = displayBanner ++ printed.flatMap printLog

section Accounts

variable {l : Logger} {entries : List LogEntry}

theorem notify_eq (l : Logger) : l.notify.log_queue = l.log_queue ∧ l.notify.cout = l.cout ∧
    l.notify.inHand = l.inHand ∧ l.notify.running = l.running ∧ l.notify.stopping = l.stopping ∧
    l.notify.notifying = l.notifying := by
  unfold notify
  split
  · rename_i hasleep
    refine ⟨rfl, rfl, ?_, rfl, rfl, rfl⟩
    rw [inHand, inHand, hasleep]
  · exact ⟨rfl, rfl, rfl, rfl, rfl, rfl⟩

/-- An event that changes neither the queue nor the output accounts for the same entries. -/
theorem Accounted.congr {l' : Logger} (h : Accounted entries l) (hqueue : l'.log_queue = l.log_queue)
    (hcout : l'.cout = l.cout) (hhand : l'.inHand = l.inHand) : Accounted entries l' := by
  unfold Accounted
  rw [hqueue, hcout, hhand]
  exact h

/-- A step of the log thread takes the next entry, prints the one in hand, or neither. -/
theorem accounted_processEntries (h : Accounted entries l) : Accounted entries l.processEntries := by
  obtain ⟨log_level, running, log_queue, log_thread, notifying, stopping, cout⟩ := l
  obtain ⟨printed, hentries, hcout⟩ := h
  cases log_thread with
  | drain =>
      cases log_queue with
      | nil => exact ⟨printed, hentries, hcout⟩
      | cons entry rest => exact ⟨printed, hentries, hcout⟩
  | print entry =>
      refine ⟨printed ++ [entry], ?_, ?_⟩
      · rw [hentries, List.append_assoc]
        rfl
      · show cout ++ printLog entry = _
        rw [List.flatMap_append, List.flatMap_singleton, ← List.append_assoc, ← hcout]
  | check =>
      cases running with
      | true => exact ⟨printed, hentries, hcout⟩
      | false => exact ⟨printed, hentries, hcout⟩
  | test =>
      refine ⟨printed, ?_, hcout⟩
      rw [hentries]
      unfold processEntries inHand
      dsimp only
      split
      · rename_i hif
        split at hif
        · cases hif
        · cases hif
      · rfl
  | lock => exact ⟨printed, hentries, hcout⟩
  | block => exact ⟨printed, hentries, hcout⟩
  | asleep => exact ⟨printed, hentries, hcout⟩
  | woken => exact ⟨printed, hentries, hcout⟩
  | relock => exact ⟨printed, hentries, hcout⟩
  | ended => exact ⟨printed, hentries, hcout⟩

/-- One event accounts for what it puts into the queue. -/
theorem accounted_step (e : Event) (h : Accounted entries l) :
    Accounted (entries ++ l.pushed e) (step l e) := by
  obtain ⟨hqueue, hcout, hhand, -, -, -⟩ := notify_eq l
  cases e with
  | log level file line func format args =>
      obtain ⟨printed, hentries, hprinted⟩ := h
      refine ⟨printed, ?_, hprinted⟩
      rw [hentries, List.append_assoc, List.append_assoc]
      rfl
  | processEntries =>
      show Accounted (entries ++ []) _
      rw [List.append_nil]
      exact accounted_processEntries h
  | setLogLevel level =>
      show Accounted (entries ++ []) _
      rw [List.append_nil]
      exact h.congr rfl rfl rfl
  | notifyOne =>
      show Accounted (entries ++ []) _
      rw [List.append_nil, step]
      split
      · exact h
      · exact h.congr hqueue hcout hhand
  | wakeUp =>
      show Accounted (entries ++ []) _
      rw [List.append_nil]
      exact h.congr hqueue hcout hhand
  | clearRunning =>
      show Accounted (entries ++ []) _
      rw [List.append_nil, step]
      split
      · exact h.congr rfl rfl rfl
      · exact h
  | notifyAll =>
      show Accounted (entries ++ []) _
      rw [List.append_nil, step]
      split
      · exact h.congr hqueue hcout hhand
      · exact h

/-- What a run has put into the queue. -/
def entriesOf (es : List Event) : List LogEntry := emitted step pushed constructed es

theorem accounted_exec (es : List Event) : Accounted (entriesOf es) (exec step constructed es) := by
  refine exec_history (R := fun es l => Accounted (entriesOf es) l) ⟨[], rfl, rfl⟩ ?_ es
  intro es e h
  rw [entriesOf, emitted_concat]
  exact accounted_step e h

end Accounts

/-! ## Who wakes the log thread -/

/-- What holds between the queue, the flag and the log thread. -/
structure Tidy (l : Logger) : Prop where
  /-- The thread falls asleep with an empty queue. -/
  block : l.log_thread = .block → l.log_queue = []
  /-- While it sleeps on entries, a notification is on its way. -/
  asleep : l.log_thread = .asleep → l.notifying = 0 → l.log_queue = []
  running : l.running = true ↔ l.stopping = .no
  ended : l.log_thread = .ended → l.running = false

section Invariant

variable {l : Logger}

/-- A thread that is at none of these places. -/
theorem tidy_of_busy (hrunning : l.running = true ↔ l.stopping = .no)
    (hbusy : l.log_thread ≠ .block ∧ l.log_thread ≠ .asleep ∧ l.log_thread ≠ .ended) : Tidy l where
  block := fun h => absurd h hbusy.1
  asleep := fun h => absurd h hbusy.2.1
  running := hrunning
  ended := fun h => absurd h hbusy.2.2

theorem tidy_constructed : Tidy constructed := tidy_of_busy (iff_of_true rfl rfl) (by decide)

theorem tidy_notify (h : Tidy l) : Tidy l.notify := by
  unfold notify
  split
  · refine tidy_of_busy h.running ?_
    simp
  · exact h

theorem processEntries_test {log_thread : LogThread} (ht : l.log_thread = .test)
    (hnext : (if l.log_queue ≠ [] ∨ l.running = false then LogThread.drain else .block) = log_thread) :
    l.processEntries = { l with log_thread := log_thread } := by
  rw [processEntries, ht, ← hnext]

theorem tidy_processEntries (h : Tidy l) : Tidy l.processEntries := by
  cases ht : l.log_thread with
  | check =>
      rw [processEntries, ht]
      dsimp only
      split
      · exact tidy_of_busy h.running (by simp)
      · rename_i hrunning
        exact ⟨by simp, by simp, h.running, fun _ => eq_false_of_ne_true hrunning⟩
  | test =>
      by_cases hwait : l.log_queue ≠ [] ∨ l.running = false
      · rw [processEntries_test ht (if_pos hwait)]
        exact tidy_of_busy h.running (by simp)
      · rw [processEntries_test ht (if_neg hwait)]
        refine ⟨fun _ => ?_, by simp, h.running, by simp⟩
        exact not_not.mp fun hne => hwait (Or.inl hne)
  | block =>
      rw [processEntries, ht]
      exact ⟨by simp, fun _ _ => h.block ht, h.running, by simp⟩
  | drain =>
      rw [processEntries, ht]
      dsimp only
      cases l.log_queue with
      | nil => exact tidy_of_busy h.running (by simp)
      | cons entry rest => exact tidy_of_busy h.running (by simp)
  | asleep =>
      rw [processEntries, ht]
      exact h
  | ended =>
      rw [processEntries, ht]
      exact h
  | _ =>
      rw [processEntries, ht]
      exact tidy_of_busy h.running (by simp)

/-- A call of `log` cannot put anything into the queue while the thread holds the mutex, and leaves a
notification behind. -/
theorem tidy_log (h : Tidy l) (level : LogLevel) (file : Bytes) (line : Int) (func format : Bytes)
    (args : List Bytes) : Tidy (step l (.log level file line func format args)) := by
  have hnothing : l.pushed (.log level file line func format args) = [] →
      step l (.log level file line func format args) = l := by
    intro hnil
    rw [step, hnil, List.append_nil]
    rfl
  cases hpushed : l.pushed (.log level file line func format args) with
  | nil =>
      rw [hnothing hpushed]
      exact h
  | cons entry rest =>
      have hfree : ¬l.holdsMutex = true := by
        intro hholds
        rw [pushed, if_pos hholds] at hpushed
        cases hpushed
      refine ⟨?_, ?_, h.running, h.ended⟩
      · intro hblock
        exact absurd (decide_eq_true (Or.inr (Or.inl hblock))) hfree
      · intro _ hzero
        change l.notifying + (l.pushed _).length = 0 at hzero
        rw [hpushed, List.length_cons] at hzero
        omega

theorem tidy_step (e : Event) (h : Tidy l) : Tidy (step l e) := by
  cases e with
  | setLogLevel level => exact ⟨h.block, h.asleep, h.running, h.ended⟩
  | log level file line func format args => exact tidy_log h level file line func format args
  | processEntries => exact tidy_processEntries h
  | wakeUp => exact tidy_notify h
  | notifyOne =>
      rw [step]
      split
      · exact h
      · have hnotify := tidy_notify h
        refine ⟨hnotify.block, ?_, hnotify.running, hnotify.ended⟩
        intro hasleep
        -- a notified thread does not sleep
        change l.notify.log_thread = .asleep at hasleep
        rw [notify] at hasleep
        split at hasleep
        · cases hasleep
        · rename_i hawake
          exact absurd hasleep hawake
  | clearRunning =>
      rw [step]
      split
      · exact ⟨h.block, h.asleep, by simp, fun _ => rfl⟩
      · exact h
  | notifyAll =>
      rw [step]
      split
      · rename_i hflagged
        have hnotify := tidy_notify h
        have hrunning : ¬l.running = true := by
          rw [h.running, hflagged]
          decide
        refine ⟨hnotify.block, hnotify.asleep, iff_of_false ?_ (by simp), hnotify.ended⟩
        show ¬l.notify.running = true
        rw [(notify_eq l).2.2.2.1]
        exact hrunning
      · exact h

theorem tidy_exec (es : List Event) : Tidy (exec step constructed es) :=
  exec_preserves (fun _ e h => tidy_step e h) tidy_constructed es

end Invariant

/-! ## As long as the logger lives -/

/-- The step is one of the log thread that is not asleep, or the notification of a call of `log`. -/
def Busy (l : Logger) : Event → Prop
  | .processEntries => l.log_thread ≠ .asleep ∧ l.log_thread ≠ .ended
  | .notifyOne => 0 < l.notifying
  | _ => False

/-- How far the log thread is from falling asleep, or from its end, with an empty queue. -/
def weight (l : Logger) : Nat :=
  match l.log_thread with
  | .check => if l.running then if l.log_queue = [] then 4 else 8 else 1
  | .lock => if l.log_queue ≠ [] ∨ l.running = false then 7 else 3
  | .woken => if l.log_queue ≠ [] ∨ l.running = false then 7 else 3
  | .test => if l.log_queue ≠ [] ∨ l.running = false then 6 else 2
  | .block => 1
  | .asleep => 0
  | .drain => 5
  | .print _ => 7
  | .relock => 6
  | .ended => 0

/-- A bound on the number of steps that are left. -/
def rank (l : Logger) : Nat := 13 * l.log_queue.length + 10 * l.notifying + l.weight

section Progress

variable {l : Logger}

theorem weight_woken_le (l : Logger) : weight { l with log_thread := .woken } ≤ 7 := by
  unfold weight
  dsimp only
  split
  · exact Nat.le_refl 7
  · decide

/-- Every step of the log thread comes closer. -/
theorem rank_processEntries (h : l.log_thread ≠ .asleep ∧ l.log_thread ≠ .ended) :
    rank l.processEntries < rank l := by
  unfold rank
  cases ht : l.log_thread with
  | asleep => exact absurd ht h.1
  | ended => exact absurd ht h.2
  | drain =>
      cases hqueue : l.log_queue with
      | nil =>
          simp only [processEntries, weight, ht, hqueue]
          split <;> simp
      | cons entry rest =>
          simp only [processEntries, weight, ht, hqueue, List.length_cons]
          omega
  | check =>
      by_cases hrunning : l.running = true
      · by_cases hqueue : l.log_queue = []
        · simp [processEntries, weight, ht, hrunning, hqueue]
        · simp [processEntries, weight, ht, hrunning, hqueue]
      · simp [processEntries, weight, ht, hrunning]
  | test =>
      by_cases hwait : l.log_queue ≠ [] ∨ l.running = false
      · rw [processEntries_test ht (if_pos hwait)]
        simp only [weight, ht, if_pos hwait]
        omega
      · rw [processEntries_test ht (if_neg hwait)]
        simp only [weight, ht, if_neg hwait]
        omega
  | lock =>
      simp only [processEntries, weight, ht]
      split <;> omega
  | woken =>
      simp only [processEntries, weight, ht]
      split <;> omega
  | block =>
      simp only [processEntries, weight, ht]
      omega
  | print entry =>
      simp only [processEntries, weight, ht]
      omega
  | relock =>
      simp only [processEntries, weight, ht]
      omega

theorem rank_step (l : Logger) (e : Event) (h : Busy l e) : rank (step l e) < rank l := by
  cases e with
  | processEntries => exact rank_processEntries h
  | notifyOne =>
      have hpos : 0 < l.notifying := h
      rw [step, if_neg (Nat.ne_of_gt hpos), notify]
      unfold rank
      split
      · have hwoken := weight_woken_le l
        have hsame : weight { l with log_thread := .woken, notifying := l.notifying - 1 } =
          weight { l with log_thread := .woken } := rfl
        dsimp only
        omega
      · have hsame : weight { l with notifying := l.notifying - 1 } = weight l := rfl
        dsimp only
        omega
  | _ => exact h.elim

/-- With nothing left to do, the log thread sleeps or has ended, and no notification is on its way. -/
theorem not_busy_iff : (∀ e, ¬Busy l e) ↔
    (l.log_thread = .asleep ∨ l.log_thread = .ended) ∧ l.notifying = 0 := by
  constructor
  · intro h
    refine ⟨?_, Nat.eq_zero_of_not_pos (h .notifyOne)⟩
    by_contra hnot
    exact h .processEntries (not_or.mp hnot)
  · rintro ⟨hthread, hzero⟩ e he
    cases e with
    | processEntries => exact hthread.elim he.1 he.2
    | notifyOne =>
        rw [Busy, hzero] at he
        exact Nat.lt_irrefl 0 he
    | _ => exact he

instance decidableBusy (l : Logger) : (e : Event) → Decidable (Busy l e)
  | .processEntries => inferInstanceAs (Decidable (_ ∧ _))
  | .notifyOne => inferInstanceAs (Decidable (0 < l.notifying))
  | .setLogLevel _ => isFalse id
  | .log _ _ _ _ _ _ => isFalse id
  | .wakeUp => isFalse id
  | .clearRunning => isFalse id
  | .notifyAll => isFalse id

theorem pushed_of_busy (l : Logger) (e : Event) (h : Busy l e) : l.pushed e = [] := by
  cases e with
  | log level file line func format args => exact h.elim
  | _ => rfl

/-- The log thread neither stops the logger nor notifies. -/
theorem processEntries_eq (l : Logger) : l.processEntries.running = l.running ∧
    l.processEntries.stopping = l.stopping ∧ l.processEntries.notifying = l.notifying := by
  unfold processEntries
  split
  case h_7 =>
    split
    · exact ⟨rfl, rfl, rfl⟩
    · exact ⟨rfl, rfl, rfl⟩
  all_goals exact ⟨rfl, rfl, rfl⟩

/-- Until the destructor runs, the flag stays set. -/
theorem stopping_exec {es : List Event} (hes : Event.clearRunning ∉ es) :
    (exec step constructed es).stopping = .no := by
  induction es using List.reverseRecOn with
  | nil => rfl
  | append_singleton es e ih =>
      rw [List.mem_append, not_or, List.mem_singleton] at hes
      have hno := ih hes.1
      rw [exec_concat]
      generalize exec step constructed es = l at hno
      cases e with
      | clearRunning => exact absurd rfl hes.2
      | setLogLevel level => exact hno
      | log level file line func format args => exact hno
      | wakeUp => exact (notify_eq l).2.2.2.2.1.trans hno
      | notifyOne =>
          rw [step]
          split
          · exact hno
          · exact (notify_eq l).2.2.2.2.1.trans hno
      | notifyAll =>
          have hnot : ¬l.stopping = .flagged := by
            rw [hno]
            decide
          rw [step, if_neg hnot]
          exact hno
      | processEntries => exact (processEntries_eq l).2.1.trans hno

/-- **`everything_is_printed`** — in every run without the destructor, whatever threads log: the log
thread and the calls of `log` that still have to notify make only finitely many steps if nothing else
is logged, in whatever order, and when there is none left the queue is empty and everything that was
put into it has been printed after the banner, once and in the order of the queue. -/
theorem everything_is_printed (es rest : List Event) (hes : Event.clearRunning ∉ es)
    (hrest : StepsMeet step Busy (exec step constructed es) rest) :
    let l := exec step constructed es
    let after := exec step l rest
    rest.length ≤ rank l ∧ ((∀ e, ¬Busy after e) →
      after.log_queue = [] ∧ after.cout = displayBanner ++ (entriesOf es).flatMap printLog) := by
  intro l after
  refine ⟨?_, fun hquiet => ?_⟩
  · exact length_le_rank (I := fun _ => True) (fun _ _ _ _ => trivial)
      (fun l e _ he => rank_step l e he) trivial hrest
  · have hafter : after = exec step constructed (es ++ rest) := (exec_append step _ _ _).symm
    obtain ⟨hthread, hzero⟩ := not_busy_iff.mp hquiet
    have htidy : Tidy after := hafter ▸ tidy_exec (es ++ rest)
    have hrest' : Event.clearRunning ∉ rest := by
      intro hmem
      obtain ⟨pre, suf, rfl⟩ := List.append_of_mem hmem
      exact hrest pre .clearRunning ⟨suf, by rw [List.append_assoc]; rfl⟩
    have hrunning : after.running = true := by
      have hno : after.stopping = .no := by
        rw [hafter]
        exact stopping_exec fun h => (List.mem_append.mp h).elim hes hrest'
      exact htidy.running.mpr hno
    have hasleep : after.log_thread = .asleep := by
      refine hthread.resolve_right fun hended => ?_
      rw [htidy.ended hended] at hrunning
      cases hrunning
    have hqueue := htidy.asleep hasleep hzero
    obtain ⟨printed, hentries, hcout⟩ := accounted_exec (es ++ rest)
    rw [← hafter] at hentries hcout
    have hhand : after.inHand = [] := by
      rw [inHand, hasleep]
    rw [hhand, hqueue, List.append_nil, List.append_nil, entriesOf, emitted_append,
      emitted_eq_nil pushed_of_busy hrest, List.append_nil] at hentries
    exact ⟨hqueue, by rw [hcout, entriesOf, hentries]⟩

/-- A line that is logged while the log thread falls asleep, and the steps that print it. -/
theorem everything_is_printed_hello :
    let es : List Event := [.processEntries, .processEntries, .processEntries, .processEntries,
      .log .INFO (str "main.cpp") 12 (str "main") (str "Server Host : \x7b\x7d") [str "127.0.0.1"]]
    let rest : List Event := [.notifyOne, .processEntries, .processEntries, .processEntries,
      .processEntries, .processEntries, .processEntries, .processEntries, .processEntries,
      .processEntries, .processEntries]
    let l := exec step constructed es
    let after := exec step l rest
    rest.length ≤ rank l ∧ ((∀ e, ¬Busy after e) →
      after.log_queue = [] ∧ after.cout = displayBanner ++ (entriesOf es).flatMap printLog) :=
  everything_is_printed _ _ (by simp) (by decide +kernel)

end Progress

/-! ## The destructor -/

/-- Where the log thread ends up by itself once the flag is cleared, and what it leaves in the queue. -/
def fate (l : Logger) : LogThread × List LogEntry :=
  match l.log_thread with
  | .block => (.asleep, l.log_queue)
  | .asleep => (.asleep, l.log_queue)
  | .check => (.ended, l.log_queue)
  | .ended => (.ended, l.log_queue)
  | _ => (.ended, [])

section Shutdown

variable {l : Logger}

theorem fate_processEntries (h : l.running = false) : fate l.processEntries = fate l := by
  cases ht : l.log_thread with
  | test => rw [processEntries_test ht (if_pos (Or.inr h)), fate, fate, ht]
  | check => simp [processEntries, fate, ht, h]
  | drain =>
      cases hqueue : l.log_queue with
      | nil => simp [processEntries, fate, ht, hqueue]
      | cons entry rest => simp [processEntries, fate, ht, hqueue]
  | _ => simp [processEntries, fate, ht]

/-- Steps of the log thread after the flag has been cleared. -/
theorem fate_replicate (h : l.running = false) (n : Nat) :
    fate (exec step l (List.replicate n .processEntries)) = fate l := by
  induction n generalizing l with
  | zero => rfl
  | succ n ih =>
      rw [List.replicate_succ, exec_cons]
      show fate (exec step l.processEntries _) = _
      rw [ih ((processEntries_eq l).1.trans h), fate_processEntries h]

theorem notifying_replicate (l : Logger) (n : Nat) :
    (exec step l (List.replicate n .processEntries)).notifying = l.notifying := by
  induction n generalizing l with
  | zero => rfl
  | succ n ih =>
      rw [List.replicate_succ, exec_cons]
      exact (ih _).trans (processEntries_eq l).2.2

/-- A thread that sleeps or has ended takes no further steps. -/
theorem exec_replicate_of_quiet (h : l.log_thread = .asleep ∨ l.log_thread = .ended) (n : Nat) :
    exec step l (List.replicate n .processEntries) = l := by
  have hstep : step l .processEntries = l := by
    rw [step, processEntries]
    rcases h with h | h
    · rw [h]
    · rw [h]
  induction n with
  | zero => rfl
  | succ n ih => rw [List.replicate_succ, exec_cons, hstep, ih]

/-- By itself, the log thread falls asleep or ends. -/
theorem exists_quiet (l : Logger) : ∃ N, ∀ n, N ≤ n →
    (exec step l (List.replicate n .processEntries)).log_thread = .asleep ∨
      (exec step l (List.replicate n .processEntries)).log_thread = .ended := by
  have hlower : ∀ l e, True → e = .processEntries ∧ Busy l e → rank (step l e) < rank l :=
    fun l e _ he => rank_step l e he.2
  obtain ⟨es, hes, hstuck⟩ := exists_stepsMeet_of_rank (fun _ _ _ _ => trivial) hlower
    (s := l) trivial
  have hsame : es = List.replicate es.length .processEntries := by
    refine List.eq_replicate_iff.mpr ⟨rfl, fun e he => ?_⟩
    obtain ⟨pre, suf, rfl⟩ := List.append_of_mem he
    exact (hes pre e ⟨suf, by rw [List.append_assoc]; rfl⟩).1
  have hquiet : (exec step l es).log_thread = .asleep ∨ (exec step l es).log_thread = .ended := by
    by_contra hnot
    exact hstuck .processEntries ⟨rfl, not_or.mp hnot⟩
  refine ⟨es.length, fun n hn => ?_⟩
  have hsplit : List.replicate n Event.processEntries =
      es ++ List.replicate (n - es.length) .processEntries := by
    conv_rhs => rw [hsame]
    rw [List.length_replicate, List.replicate_append_replicate, Nat.add_sub_cancel' hn]
  rw [hsplit, exec_append, exec_replicate_of_quiet hquiet]
  exact hquiet

/-- What the notification of the destructor does to the fate of the log thread. -/
theorem fate_notify (htidy : Tidy l) : fate l.notify = if l.log_thread = .block then (.asleep, [])
    else (.ended, if l.log_thread = .check ∨ l.log_thread = .ended then l.log_queue else []) := by
  unfold notify
  split
  · rename_i hasleep
    rw [fate, hasleep]
    rfl
  · rename_i hawake
    cases ht : l.log_thread with
    | asleep => exact absurd ht hawake
    | block => rw [fate, ht, htidy.block ht]; rfl
    | _ => rw [fate, ht]; rfl

/-- **`shutdown`** — in every run, when the destructor is about to notify and no call of `log` is under
way: from some number of steps on the log thread has ended exactly if it was not just about to fall
asleep, in which case it sleeps with no notification on its way and the destructor waits for it; and
what the destructor leaves unprinted is what was in the queue if the thread was between two rounds or
had ended, and nothing otherwise. -/
theorem shutdown (es : List Event) (hflagged : (exec step constructed es).stopping = .flagged)
    (hcalls : (exec step constructed es).notifying = 0) :
    let l := exec step constructed es
    ∃ N, ∀ n, N ≤ n →
      let after := exec step l (.notifyAll :: List.replicate n .processEntries)
      (after.log_thread = .ended ↔ l.log_thread ≠ .block) ∧
      (after.log_thread = .asleep ∧ after.notifying = 0 ↔ l.log_thread = .block) ∧
      ∃ printed, entriesOf es = printed ++
          (if l.log_thread = .check ∨ l.log_thread = .ended then l.log_queue else []) ∧
        after.cout = displayBanner ++ printed.flatMap printLog := by
  intro l
  have htidy : Tidy l := tidy_exec es
  obtain ⟨N, hN⟩ := exists_quiet (step l .notifyAll)
  refine ⟨N, fun n hn => ?_⟩
  intro after
  have hquiet : after.log_thread = .asleep ∨ after.log_thread = .ended := hN n hn
  have hnotified : step l .notifyAll = { l.notify with stopping := .notified } := if_pos hflagged
  have hrunning : (step l .notifyAll).running = false := by
    rw [hnotified]
    show l.notify.running = false
    rw [(notify_eq l).2.2.2.1]
    refine eq_false_of_ne_true fun h => ?_
    rw [htidy.running.mp h] at hflagged
    cases hflagged
  have hfate : fate after = if l.log_thread = .block then (.asleep, [])
      else (.ended, if l.log_thread = .check ∨ l.log_thread = .ended then l.log_queue else []) := by
    rw [← fate_notify htidy]
    refine (fate_replicate hrunning n).trans ?_
    rw [hnotified]
    rfl
  have hthread : fate after = (after.log_thread, after.log_queue) := by
    rcases hquiet with h | h
    · rw [fate, h]
    · rw [fate, h]
  rw [hthread] at hfate
  have hzero : after.notifying = 0 := by
    refine (notifying_replicate _ n).trans ?_
    rw [hnotified]
    exact (notify_eq l).2.2.2.2.2.trans hcalls
  have hhand : after.inHand = [] := by
    rcases hquiet with h | h
    · rw [inHand, h]
    · rw [inHand, h]
  have hentries : Accounted (entriesOf es) after := by
    have hnone : emitted step pushed l (.notifyAll :: List.replicate n .processEntries) = [] := by
      refine emitted_eq_nil (C := fun _ e => e = .notifyAll ∨ e = .processEntries) ?_ ?_
      · rintro l e (rfl | rfl)
        · rfl
        · rfl
      · intro pre e hpre
        have hmem := hpre.subset (List.mem_append_right _ (List.mem_singleton_self e))
        exact (List.mem_cons.mp hmem).imp_right fun h => (List.mem_replicate.mp h).2
    have haccounted := accounted_exec (es ++ .notifyAll :: List.replicate n .processEntries)
    rw [entriesOf, emitted_append, hnone, List.append_nil, exec_append] at haccounted
    exact haccounted
  obtain ⟨printed, hsum, hcout⟩ := hentries
  rw [hhand, List.nil_append] at hsum
  by_cases hblock : l.log_thread = .block
  · rw [if_pos hblock] at hfate
    obtain ⟨hasleep, hqueue⟩ := Prod.mk.inj hfate
    rw [hasleep, hblock]
    refine ⟨by simp, by simp [hzero], printed, ?_, hcout⟩
    rw [hsum, hqueue]
    simp
  · rw [if_neg hblock] at hfate
    obtain ⟨hended, hqueue⟩ := Prod.mk.inj hfate
    rw [hended]
    refine ⟨by simp [hblock], by simp [hblock], printed, ?_, hcout⟩
    rw [hsum, hqueue]

/-- The destructor runs while the log thread, which found nothing to do, is about to fall asleep. -/
theorem shutdown_hangs :
    let es : List Event := [.processEntries, .processEntries, .processEntries, .clearRunning]
    let l := exec step constructed es
    ∃ N, ∀ n, N ≤ n →
      let after := exec step l (.notifyAll :: List.replicate n .processEntries)
      (after.log_thread = .ended ↔ l.log_thread ≠ .block) ∧
      (after.log_thread = .asleep ∧ after.notifying = 0 ↔ l.log_thread = .block) ∧
      ∃ printed, entriesOf es = printed ++
          (if l.log_thread = .check ∨ l.log_thread = .ended then l.log_queue else []) ∧
        after.cout = displayBanner ++ printed.flatMap printLog :=
  shutdown _ (by decide +kernel) (by decide +kernel)

end Shutdown

end Logger

end TinyIM
