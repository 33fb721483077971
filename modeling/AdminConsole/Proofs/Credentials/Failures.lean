import AdminConsole.Backend.Recorder
import AdminConsole.Proofs.Credentials.Operations

/-!
# Backends that fail

A store asks its backend for the kept credentials once, when it is opened, and from then on only
hands over what was written. It does not look at what the backend answers to that. So there are two
things to say about a store and its backend.

* **From the backend to the store.** Two stores `Agree` if they have the same in memory, over
  whatever backends. Every operation gives the same back on both and leaves them in agreement
  (`Store.Agree.answer_eq`, `Store.Agree.perform`), so a whole run shows the same on both
  (`Store.Agree.trace_eq`). As a failed loading counts as one that found nothing, it is enough that
  they were opened with the same credentials (`Store.agree_load`).
* **From the store to the backend.** An operation that is admitted is exactly one call, for the
  credentials that are in memory after it; any other operation is none
  (`Store.backend_performAll`). `Logged` puts the calls of a run on record.

The one thing that a store passes on from its backend is the name. So runs that ask for it show the
same only where both backends are called the same.
-/

namespace AdminConsole

open AdminConsole.Time

/-! ### Calls of a backend -/

section Calls

variable {β γ : Type} [Backend β] [Backend γ]

namespace Backend

/-- The backend after a call, be it that the call succeeded or failed. -/
def call (b : β) : BackendCall → β
  | .load => (Backend.load b).2
  | .save c => (Backend.save c b).2
  | .clear => (Backend.clear b).2

/-- The credentials that a store is opened with: none where nothing was kept or the backend
fails. -/
def kept (b : β) : StoredCredentials :=
  match (Backend.load b).1 with
  | .ok (some c) => c
  | .ok none | .error _ => {}

/-- Whatever the two backends are asked for, they are called the same afterwards. -/
def NamedAlike (b : β) (c : γ) : Prop :=
  ∀ calls : List BackendCall,
    Backend.describe (calls.foldl call b) = Backend.describe (calls.foldl call c)

variable {b : β} {c : γ}

theorem NamedAlike.describe_eq (h : NamedAlike b c) : Backend.describe b = Backend.describe c :=
  h []

theorem NamedAlike.call (h : NamedAlike b c) (k : BackendCall) :
    NamedAlike (call b k) (Backend.call c k) :=
  fun calls => h (k :: calls)

end Backend

/-- The call that credentials are handed over with: there is nothing to save where none is left. -/
def BackendCall.keeping (c : StoredCredentials) : BackendCall :=
  if c.isEmpty then .clear else .save c

theorem Store.persist_eq_call (c : StoredCredentials) (b : β) :
    persist c b = Backend.call b (.keeping c) := by
  unfold persist BackendCall.keeping
  split <;> rfl

/-- A backend together with the calls that were made to it, last one first. -/
structure Logged (β : Type) where
  inner : β
  calls : List BackendCall := []

instance : Backend (Logged β) where
  load b := ((Backend.load b.inner).1, ⟨(Backend.load b.inner).2, .load :: b.calls⟩)
  save c b := ((Backend.save c b.inner).1, ⟨(Backend.save c b.inner).2, .save c :: b.calls⟩)
  clear b := ((Backend.clear b.inner).1, ⟨(Backend.clear b.inner).2, .clear :: b.calls⟩)
  describe b := Backend.describe b.inner

namespace Logged

theorem call_eq (b : Logged β) (k : BackendCall) :
    Backend.call b k = ⟨Backend.call b.inner k, k :: b.calls⟩ := by
  cases k <;> rfl

theorem foldl_call (b : Logged β) (calls : List BackendCall) :
    calls.foldl Backend.call b =
      ⟨calls.foldl Backend.call b.inner, calls.reverse ++ b.calls⟩ := by
  induction calls generalizing b with
  | nil => rfl
  | cons k calls ih =>
    rw [List.foldl_cons, ih, call_eq, List.foldl_cons, List.reverse_cons, List.append_assoc,
      List.singleton_append]

end Logged

end Calls

/-! ### All operations of a store -/

/-- A question to a store. -/
inductive StoreQuestion where
  | credential (key : CredentialKey)
  | session
  /-- All credentials, with the time of the last write. -/
  | snapshot
  | generation
  | peer
  /-- What the backend is called. -/
  | place
  deriving Repr, DecidableEq, Inhabited

/-- An operation of a store: a question, or a write that is made at some moment. -/
inductive StoreOperation where
  | ask (question : StoreQuestion)
  | write (now : Moment) (w : StoreWrite)
  deriving Repr, DecidableEq, Inhabited

/-- What an operation gives back. -/
inductive StoreAnswer where
  | token (t : Option String)
  | session (pair : TokenPair)
  | snapshot (c : StoredCredentials)
  | generation (n : Nat)
  | peer (p : Option Peer)
  | place (name : String)
  | reply (r : StoreReply)
  deriving Repr, DecidableEq, Inhabited

namespace Store

section Operations

variable {β : Type}

/-- What a store has in memory. -/
def memory (s : Store β) : Store Unit :=
  { stored := s.stored, peer := s.peer, generation := s.generation, backend := () }

/-- Whether an operation is a write to the credentials that is made. -/
def admits (s : Store β) : StoreOperation → Bool
  | .ask _ => false
  | .write _ w => s.accepts w

variable [Backend β]

/-- The answer to a question. -/
def answer (s : Store β) : StoreQuestion → StoreAnswer
  | .credential key => .token (s.get key)
  | .session => .session s.session
  | .snapshot => .snapshot s.stored
  | .generation => .generation s.generation
  | .peer => .peer s.peer
  | .place => .place (Backend.describe s.backend)

/-- An operation, with what it gives back. -/
def perform (s : Store β) : StoreOperation → StoreAnswer × Store β
  | .ask question => (s.answer question, s)
  | .write now w => (.reply (s.apply now w).1, (s.apply now w).2)

/-- The store after a run. -/
def performAll (s : Store β) : List StoreOperation → Store β
  | [] => s
  | op :: ops => (s.perform op).2.performAll ops

/-- What a run shows: what each operation gives back and what is in memory after it. -/
def trace (s : Store β) : List StoreOperation → List (StoreAnswer × Store Unit)
  | [] => []
  | op :: ops => ((s.perform op).1, (s.perform op).2.memory) :: (s.perform op).2.trace ops

/-- The credentials in memory after each operation of a run that was admitted, in the order of the
operations. -/
def written (s : Store β) : List StoreOperation → List StoredCredentials
  | [] => []
  | op :: ops =>
    if s.admits op then (s.perform op).2.stored :: (s.perform op).2.written ops
    else (s.perform op).2.written ops

end Operations

/-! ### Stores that agree -/

section Agree

variable {β γ : Type}

/-- The stores have the same in memory, over whatever backends. -/
def Agree (s : Store β) (t : Store γ) : Prop := s.memory = t.memory

namespace Agree

variable {s : Store β} {t : Store γ}

theorem stored_eq (h : s.Agree t) : s.stored = t.stored := congrArg Store.stored h

theorem peer_eq (h : s.Agree t) : s.peer = t.peer := congrArg Store.peer h

theorem generation_eq (h : s.Agree t) : s.generation = t.generation := congrArg Store.generation h

theorem admits_eq (h : s.Agree t) (op : StoreOperation) : s.admits op = t.admits op := by
  cases op with
  | ask question => rfl
  | write now w => cases w <;> simp only [admits, accepts, holds, h.stored_eq]

variable [Backend β] [Backend γ]

theorem write (h : s.Agree t) (now : Moment) (c : StoredCredentials) :
    (s.write now c).Agree (t.write now c) := by
  simp only [Agree, Store.write, Store.memory, h.stored_eq, h.peer_eq, h.generation_eq]

/-- A write that is made only where the session holds a refresh token is made on both or on none. -/
theorem writeIf (h : s.Agree t) (now : Moment) (used : String) (c : StoredCredentials) :
    let written := if s.holds used then (true, s.write now c) else (false, s)
    let written' := if t.holds used then (true, t.write now c) else (false, t)
    written.1 = written'.1 ∧ written.2.Agree written'.2 := by
  have hsame : s.holds used = t.holds used := by simp only [holds, h.stored_eq]
  rw [hsame]
  cases t.holds used with
  | true => exact ⟨rfl, h.write now c⟩
  | false => exact ⟨rfl, h⟩

theorem apply (h : s.Agree t) (now : Moment) (w : StoreWrite) :
    (s.apply now w).1 = (t.apply now w).1 ∧ (s.apply now w).2.Agree (t.apply now w).2 := by
  have hwrite := h.write now
  have hwriteIf := h.writeIf now
  -- What is in memory is one and the same term from here on.
  obtain ⟨stored, peer, generation, b⟩ := s
  obtain ⟨stored', peer', generation', c⟩ := t
  cases h
  cases w with
  | set key value => exact ⟨rfl, hwrite _⟩
  | clear group => exact ⟨rfl, hwrite _⟩
  | setSession pair => exact ⟨rfl, hwrite _⟩
  | renew used access refresh =>
    obtain ⟨hreply, hagree⟩ := hwriteIf used _
    exact ⟨congrArg StoreReply.accepted hreply, hagree⟩
  | clearIf used =>
    obtain ⟨hreply, hagree⟩ := hwriteIf used _
    exact ⟨congrArg StoreReply.accepted hreply, hagree⟩
  | setPeer peer => exact ⟨rfl, rfl⟩
  | clearPeer => exact ⟨rfl, rfl⟩

/-- Stores that agree do so after every operation. -/
theorem perform (h : s.Agree t) (op : StoreOperation) :
    (s.perform op).2.Agree (t.perform op).2 := by
  cases op with
  | ask question => exact h
  | write now w => exact (h.apply now w).2

/-- Stores that agree give the same back, their backends being asked for the name at most. -/
theorem answer_eq (h : s.Agree t) {op : StoreOperation}
    (hplace : op = .ask .place → Backend.describe s.backend = Backend.describe t.backend) :
    (s.perform op).1 = (t.perform op).1 := by
  cases op with
  | write now w => exact congrArg StoreAnswer.reply (h.apply now w).1
  | ask question =>
    cases question with
    | credential key => exact congrArg (fun c => StoreAnswer.token (c.get key)) h.stored_eq
    | session => exact congrArg (fun c => StoreAnswer.session c.session) h.stored_eq
    | snapshot => exact congrArg StoreAnswer.snapshot h.stored_eq
    | generation => exact congrArg StoreAnswer.generation h.generation_eq
    | peer => exact congrArg StoreAnswer.peer h.peer_eq
    | place => exact congrArg StoreAnswer.place (hplace rfl)

theorem written_eq (h : s.Agree t) (ops : List StoreOperation) :
    s.written ops = t.written ops := by
  induction ops generalizing s t with
  | nil => rfl
  | cons op ops ih =>
    have hnext := h.perform op
    rw [written, written, h.admits_eq op, hnext.stored_eq, ih hnext]

end Agree

end Agree

/-! ### What the backend is asked for -/

section Handing

variable {β : Type} [Backend β] {s : Store β}

/-- A write that says that it was refused has left everything as it was. -/
theorem apply_of_refused {now : Moment} {w : StoreWrite}
    (h : (s.apply now w).1 = .accepted false) : (s.apply now w).2 = s := by
  have hrefused : s.accepts w = false := accepts_eq_of_reply h
  cases w with
  | renew used access refresh =>
    have hholds : s.holds used = false := hrefused
    simp [apply, renew, hholds]
  | clearIf used =>
    have hholds : s.holds used = false := hrefused
    simp [apply, clearIf, hholds]
  | _ => cases h

/-- An operation that is admitted leaves new credentials, which have the time and were handed to
the backend in one call. -/
theorem perform_of_admits {op : StoreOperation} (h : s.admits op = true) :
    (∃ now w, op = .write now w ∧ (s.perform op).2.stored.savedAt = some now) ∧
      (s.perform op).2.backend = Backend.call s.backend (.keeping (s.perform op).2.stored) := by
  cases op with
  | ask question => cases h
  | write now w =>
    obtain ⟨credentials, hwrite⟩ := exists_apply_eq_write h now
    refine ⟨⟨now, w, rfl, ?_⟩, ?_⟩
    · rw [perform, hwrite]
      rfl
    · rw [perform, hwrite]
      exact persist_eq_call _ _

/-- An operation that is not admitted changes the selected peer at most. -/
theorem exists_perform_eq_peer {op : StoreOperation} (h : s.admits op = false) :
    ∃ peer, (s.perform op).2 = { s with peer := peer } := by
  cases op with
  | ask question => exact ⟨s.peer, rfl⟩
  | write now w => exact exists_apply_eq_peer h now

theorem backend_perform_of_not_admits {op : StoreOperation} (h : s.admits op = false) :
    (s.perform op).2.backend = s.backend := by
  obtain ⟨peer, hpeer⟩ := exists_perform_eq_peer h
  rw [hpeer]

/-- **One call for each admitted operation**, in order, and none otherwise. -/
theorem backend_performAll (s : Store β) (ops : List StoreOperation) :
    (s.performAll ops).backend =
      ((s.written ops).map BackendCall.keeping).foldl Backend.call s.backend := by
  induction ops generalizing s with
  | nil => rfl
  | cons op ops ih =>
    cases hadmits : s.admits op with
    | true =>
      obtain ⟨-, hbackend⟩ := perform_of_admits hadmits
      rw [performAll, ih, hbackend, written, if_pos hadmits, List.map_cons, List.foldl_cons]
    | false =>
      have hbackend := backend_perform_of_not_admits hadmits
      rw [performAll, ih, hbackend, written, if_neg (by simp [hadmits])]

/-- What is handed over is of the time of the operation that wrote it. -/
theorem exists_savedAt_of_mem_written {ops : List StoreOperation} {c : StoredCredentials}
    (h : c ∈ s.written ops) :
    ∃ now w, .write now w ∈ ops ∧ c.savedAt = some now := by
  induction ops generalizing s with
  | nil => cases h
  | cons op ops ih =>
    have hlater (hmem : c ∈ (s.perform op).2.written ops) :
        ∃ now w, .write now w ∈ op :: ops ∧ c.savedAt = some now := by
      obtain ⟨now, w, hop, hsaved⟩ := ih hmem
      exact ⟨now, w, List.mem_cons_of_mem op hop, hsaved⟩
    rw [written] at h
    split at h
    case isTrue hadmits =>
      obtain rfl | hmem := List.mem_cons.mp h
      · obtain ⟨⟨now, w, rfl, hsaved⟩, -⟩ := perform_of_admits hadmits
        exact ⟨now, w, List.mem_cons_self, hsaved⟩
      · exact hlater hmem
    case isFalse => exact hlater h

end Handing

/-! ### Opening a store -/

section Opening

variable {β γ : Type} [Backend β] [Backend γ]

theorem load_eq_kept (b : β) :
    load b = { stored := Backend.kept b, backend := Backend.call b .load } := by
  unfold load Backend.kept Backend.call
  obtain ⟨result, b'⟩ := Backend.load b
  cases result with
  | error e => rfl
  | ok kept => cases kept <;> rfl

/-- Stores that are opened with the same credentials agree. -/
theorem agree_load {b : β} {c : γ} (hkept : Backend.kept b = Backend.kept c) :
    (load b).Agree (load c) := by
  rw [load_eq_kept, load_eq_kept, hkept]
  exact rfl

/-- The calls on record are those of opening the store and of the admitted operations. -/
theorem backend_performAll_logged (b : β) (ops : List StoreOperation) :
    ((load ({ inner := b } : Logged β)).performAll ops).backend =
      { inner := ((load b).performAll ops).backend
        calls := (((load b).written ops).map BackendCall.keeping).reverse ++ [.load] } := by
  have hagree : (load ({ inner := b } : Logged β)).Agree (load b) := agree_load rfl
  rw [backend_performAll, backend_performAll, hagree.written_eq ops, load_eq_kept, load_eq_kept,
    Logged.foldl_call, Logged.call_eq]

end Opening

/-! ### What a run shows -/

section Showing

variable {β γ : Type} [Backend β] [Backend γ] {s : Store β} {t : Store γ}

/-- Stores that agree make the same calls, after which their backends are still called alike. -/
theorem Agree.namedAlike (h : s.Agree t) (hnames : Backend.NamedAlike s.backend t.backend)
    (op : StoreOperation) :
    Backend.NamedAlike (s.perform op).2.backend (t.perform op).2.backend := by
  cases hadmits : s.admits op with
  | true =>
    obtain ⟨-, hs⟩ := perform_of_admits hadmits
    obtain ⟨-, ht⟩ := perform_of_admits ((h.admits_eq op).symm.trans hadmits)
    rw [hs, ht, (h.perform op).stored_eq]
    exact hnames.call _
  | false =>
    have hs := backend_perform_of_not_admits hadmits
    have ht := backend_perform_of_not_admits ((h.admits_eq op).symm.trans hadmits)
    rw [hs, ht]
    exact hnames

/-- Runs of stores that agree show the same. -/
theorem Agree.trace_eq (h : s.Agree t) {ops : List StoreOperation}
    (hnames : .ask .place ∈ ops → Backend.NamedAlike s.backend t.backend) :
    s.trace ops = t.trace ops := by
  induction ops generalizing s t with
  | nil => rfl
  | cons op ops ih =>
    have hanswer : (s.perform op).1 = (t.perform op).1 := by
      refine h.answer_eq fun hplace => ?_
      exact (hnames (hplace ▸ List.mem_cons_self)).describe_eq
    have hmemory : (s.perform op).2.memory = (t.perform op).2.memory := h.perform op
    have hrest : (s.perform op).2.trace ops = (t.perform op).2.trace ops := by
      refine ih (h.perform op) fun hmem => ?_
      exact h.namedAlike (hnames (List.mem_cons_of_mem op hmem)) op
    rw [trace, trace, hanswer, hmemory, hrest]

end Showing

/-! ### Failures are not heeded -/

/-- **Failures of a backend are not heeded, and what is written is handed to it once.** Let two
stores be opened on backends of which any operation may fail at any time. If the same credentials
were found, a failed loading having found none, a run shows the same on both: it makes no difference
that the backend of the one fails whenever it is asked and that of the other never does. Where the
run asks for the name of the backend, the two have to be called the same for that. The backend is
called once when the store is opened and then once for each accepted write, with the credentials
that are in memory after it: `clear` where none is left, `save` otherwise. These have the time of
the write. Nothing else calls the backend, and a refused renewal or clearing changes nothing at
all. -/
theorem failures_unheeded {β γ : Type} [Backend β] [Backend γ] (b : β) (c : γ)
    (hkept : Backend.kept b = Backend.kept c) (ops : List StoreOperation)
    (hnames : .ask .place ∈ ops → Backend.NamedAlike b c) :
    (load b).trace ops = (load c).trace ops ∧
    ((load ({ inner := b } : Logged β)).performAll ops).backend =
      { inner := ((load b).performAll ops).backend
        calls := (((load b).written ops).map BackendCall.keeping).reverse ++ [.load] } ∧
    (∀ stored ∈ (load b).written ops,
      ∃ now w, .write now w ∈ ops ∧ stored.savedAt = some now) ∧
    ∀ now w, (((load b).performAll ops).apply now w).1 = .accepted false →
      (((load b).performAll ops).apply now w).2 = (load b).performAll ops := by
  refine ⟨?_, backend_performAll_logged b ops, ?_, ?_⟩
  · refine (agree_load hkept).trace_eq fun hplace => ?_
    rw [load_eq_kept, load_eq_kept]
    exact (hnames hplace).call .load
  · intro stored hmem
    exact exists_savedAt_of_mem_written hmem
  · intro now w hrefused
    exact apply_of_refused hrefused

/-- A backend that fails whenever it is asked, next to one that never fails and has kept nothing. A
session is installed, a renewal with another refresh token is refused, and everything is cleared. -/
theorem failures_unheeded_refusing :
    let now : Moment := ⟨⟨2024, 2, 29⟩, 23, 59, 58, 120000000⟩
    let refusing : RecordingBackend :=
      { initial := some { session := ⟨some "a0", some "r0"⟩ }, fails := fun _ => true }
    let reliable : RecordingBackend := {}
    let ops : List StoreOperation :=
      [ .ask .place, .write now (.setSession ⟨some "a1", some "r1"⟩),
        .write now (.renew "r0" "a2" none), .write now .clearPeer, .ask .session,
        .write now (.clear .all) ]
    (Backend.load refusing).1 = .error .system ∧ (Backend.load reliable).1 = .ok none ∧
      (load refusing).trace ops = (load reliable).trace ops ∧
      ((load ({ inner := refusing } : Logged RecordingBackend)).performAll ops).backend.calls =
        [.clear, .save { session := ⟨some "a1", some "r1"⟩, savedAt := some now }, .load] := by
  intro now refusing reliable ops
  have hkept : Backend.kept refusing = Backend.kept reliable := rfl
  have hnames : Backend.NamedAlike refusing reliable := fun _ => rfl
  obtain ⟨htrace, hlogged, -⟩ := failures_unheeded refusing reliable hkept ops fun _ => hnames
  refine ⟨rfl, rfl, htrace, ?_⟩
  rw [hlogged]
  decide

end Store

end AdminConsole
