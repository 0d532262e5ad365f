import ArmFaceID.Server.RpcManager
import Mathlib.Logic.Function.Basic

/-!
# `Register` handlers side by side

`RegisterFace(frame)` asks the engine whether the face is registered and then registers it, two
calls that no lock holds together: `RpcManagerImpl::mutex_` is never taken. Here any number of
handlers run at once, each engine call being one step. Duplicates stay out exactly as long as no
handler inserts after another one has inserted a similar face since its own query
(`no_duplicates_iff`).
-/

set_option autoImplicit false

namespace ArmFaceID.Server

open ArmFaceID.Library

variable {Mat QImage : Type} (V : Vision Mat QImage) (observers : List Observer)

/-- Where a handler is in `RpcManagerImpl::Register`. `seen` is the size of the database when the
query ran. -/
inductive RegisterPhase (Mat : Type) where
  | ready
  | queried (decodedMat : Mat) (seen : Nat)
  | replied (result : Handled RegisterResult)

/-- SeetaFace's database and the handlers. -/
structure RegisterHandlers where
  gallery : V.Gallery := []
  handlers : Nat → RegisterPhase Mat := fun _ => .ready

/-- `query`: a handler decodes a request and runs `face_engine_->Query`. `register`: it runs
`face_engine_->Register`, to which SeetaFace answers `answer`. -/
inductive RegisterCall where
  | query (handler : Nat) (request : RegisterRequest)
  | register (handler : Nat) (answer : Option Nat)

def RegisterHandlers.enter (s : RegisterHandlers V) (handler : Nat) (phase : RegisterPhase Mat) :
    RegisterHandlers V :=
  { s with handlers := Function.update s.handlers handler phase }

/-- One step of one handler. A handler that has replied may take the next request. -/
def handlersStep (s : RegisterHandlers V) : RegisterCall → Option (RegisterHandlers V)
  | .query handler request =>
      match s.handlers handler with
      | .queried _ _ => none
      | _ =>
          match V.bytesToMat request.faceImg V.noMat with
          | .error _ => some (s.enter V handler (.replied ⟨.unknown, {}⟩))
          | .ok decodedMat =>
              match registerFaceQuery V observers s.gallery decodedMat with
              | some result => some (s.enter V handler (.replied (registerReply result.id)))
              | none => some (s.enter V handler (.queried decodedMat s.gallery.length))
  | .register handler answer =>
      match s.handlers handler with
      | .queried decodedMat _ =>
          let result := registerFaceInsert V observers s.gallery answer decodedMat
          some { s.enter V handler (.replied (registerReply result.id)) with
            gallery := result.store }
      | _ => none

/-- The first half of `RegisterFace(frame)` leaves the database alone. -/
theorem registerFaceQuery_store {gallery : V.Gallery} {decodedMat : Mat}
    {result : Registration Mat V.Gallery}
    (h : registerFaceQuery V observers gallery decodedMat = some result) :
    result.store = gallery := by
  simp only [registerFaceQuery] at h
  split at h
  · cases h
    rfl
  · cases h

/-- A handler that nobody interrupts does what `rpcRegister` does. -/
theorem rpcRegister_eq_steps (s : RegisterHandlers V) (handler : Nat) (request : RegisterRequest)
    (answer : Option Nat) (h : s.handlers handler = .ready) :
    ∃ cs t, Run (handlersStep V observers) s cs t ∧
      (cs = [.query handler request] ∨
        cs = [.query handler request, .register handler answer]) ∧
      t.gallery = (rpcRegister V observers s.gallery answer request).2 ∧
      t.handlers handler = .replied (rpcRegister V observers s.gallery answer request).1.handled := by
  rw [rpcRegister]
  cases hdec : V.bytesToMat request.faceImg V.noMat with
  | error err =>
      have hstep : handlersStep V observers s (.query handler request) =
          some (s.enter V handler (.replied ⟨.unknown, {}⟩)) := by
        simp only [handlersStep, h, hdec]
      exact ⟨_, _, .snoc .nil hstep, Or.inl rfl, rfl, Function.update_self _ _ _⟩
  | ok decodedMat =>
      simp only [registerFace]
      cases hquery : registerFaceQuery V observers s.gallery decodedMat with
      | some result =>
          have hstep : handlersStep V observers s (.query handler request) =
              some (s.enter V handler (.replied (registerReply result.id))) := by
            simp only [handlersStep, h, hdec, hquery]
          have hstore := registerFaceQuery_store V observers hquery
          exact ⟨_, _, .snoc .nil hstep, Or.inl rfl, hstore.symm, Function.update_self _ _ _⟩
      | none =>
          let next := s.enter V handler (.queried decodedMat s.gallery.length)
          let result := registerFaceInsert V observers s.gallery answer decodedMat
          have hfirst : handlersStep V observers s (.query handler request) = some next := by
            simp only [handlersStep, h, hdec, hquery, next]
          have hphase : next.handlers handler = .queried decodedMat s.gallery.length :=
            Function.update_self _ _ _
          have hsecond : handlersStep V observers next (.register handler answer) =
              some { next.enter V handler (.replied (registerReply result.id)) with
                gallery := result.store } := by
            simp only [handlersStep, hphase]
            rfl
          exact ⟨_, _, .snoc (.snoc .nil hfirst) hsecond, Or.inr rfl, rfl,
            Function.update_self _ _ _⟩

/-! ## Duplicates -/

/-- No entry was inserted for an image similar to an entry already there. Entries are never removed,
so those before an entry are those that were there when it was inserted. -/
def NoDuplicates (gallery : V.Gallery) : Prop :=
  gallery.Pairwise fun older newer => ¬ queryThreshold < V.similarity newer.image older

instance (gallery : V.Gallery) : Decidable (NoDuplicates V gallery) :=
  inferInstanceAs (Decidable (List.Pairwise _ _))

/-- If the step inserts, nothing similar has been inserted since the handler's own query. -/
def NothingSimilarSince (s : RegisterHandlers V) : RegisterCall → Prop
  | .register handler answer =>
      ∀ decodedMat seen, s.handlers handler = .queried decodedMat seen → answer ≠ none →
        ∀ e ∈ s.gallery.drop seen, ¬ queryThreshold < V.similarity decodedMat e
  | _ => True

/-- What a handler knows from its query: no entry of the database of that time is similar. -/
structure HandlersInvariant (s : RegisterHandlers V) : Prop where
  queried : ∀ handler decodedMat seen, s.handlers handler = .queried decodedMat seen →
    seen ≤ s.gallery.length ∧
      ∀ e ∈ s.gallery.take seen, ¬ queryThreshold < V.similarity decodedMat e
  noDuplicates : NoDuplicates V s.gallery

section Step

variable {V observers} {s t : RegisterHandlers V} {handler : Nat} {phase : RegisterPhase Mat}

/-- A phase that is not `queried` asks for nothing. -/
theorem handlersInvariant_enter (hinv : HandlersInvariant V s)
    (hphase : ∀ decodedMat seen, phase = .queried decodedMat seen → seen ≤ s.gallery.length ∧
      ∀ e ∈ s.gallery.take seen, ¬ queryThreshold < V.similarity decodedMat e) :
    HandlersInvariant V (s.enter V handler phase) := by
  refine ⟨?_, hinv.noDuplicates⟩
  intro other decodedMat seen hother
  by_cases hsame : other = handler
  · subst hsame
    simp only [RegisterHandlers.enter, Function.update_self] at hother
    exact hphase decodedMat seen hother
  · simp only [RegisterHandlers.enter, Function.update_of_ne hsame] at hother
    exact hinv.queried other decodedMat seen hother

/-- What a query that lets the handler go on has found out. -/
theorem not_matched_of_query {gallery : V.Gallery} {decodedMat : Mat}
    (h : registerFaceQuery V observers gallery decodedMat = none) :
    ¬ V.Matched gallery decodedMat := by
  intro hm
  have htest := (V.query_test_iff gallery decodedMat).2 hm
  simp [registerFaceQuery, if_pos htest] at h

variable (observers) in
/-- What an insertion can do to the database. -/
theorem registerFaceInsert_store (gallery : V.Gallery) (answer : Option Nat) (decodedMat : Mat) :
    ((V.detectFaces decodedMat = [] ∨ answer = none) ∧
        (registerFaceInsert V observers gallery answer decodedMat).store = gallery) ∨
      ∃ e : Entry V.toSeetaModels, answer ≠ none ∧ e.image = decodedMat ∧
        (registerFaceInsert V observers gallery answer decodedMat).store = gallery ++ [e] := by
  rw [registerFaceInsert]
  rcases V.register_cases answer gallery decodedMat with ⟨hwhy, hreg⟩ | ⟨e, -, hans, himg, hreg⟩
  · refine Or.inl ⟨hwhy, ?_⟩
    simp only [hreg, if_true]
  · refine Or.inr ⟨e, ?_, himg, ?_⟩
    · rw [hans]
      exact Option.some_ne_none _
    · have hne : (e.index : Int) ≠ -1 := by omega
      simp only [hreg, if_neg hne]

theorem noDuplicates_snoc {gallery : V.Gallery} {e : Entry V.toSeetaModels} :
    NoDuplicates V (gallery ++ [e]) ↔
      NoDuplicates V gallery ∧ ∀ older ∈ gallery, ¬ queryThreshold < V.similarity e.image older := by
  rw [NoDuplicates, NoDuplicates, List.pairwise_append]
  simp

/-- A longer database keeps what the handlers know. -/
theorem handlersInvariant_grow (hinv : HandlersInvariant V s) {gallery : V.Gallery}
    (hpre : s.gallery <+: gallery) (hno : NoDuplicates V gallery) :
    HandlersInvariant V { s with gallery := gallery } := by
  refine ⟨?_, hno⟩
  intro other decodedMat seen hother
  obtain ⟨hle, hknown⟩ := hinv.queried other decodedMat seen hother
  obtain ⟨added, rfl⟩ := hpre
  refine ⟨?_, ?_⟩
  · rw [List.length_append]
    omega
  · rw [List.take_append_of_le_length hle]
    exact hknown

variable {c : RegisterCall}

theorem handlersInvariant_step (hinv : HandlersInvariant V s) (hguard : NothingSimilarSince V s c)
    (ht : handlersStep V observers s c = some t) : HandlersInvariant V t := by
  cases c with
  | query handler request =>
      simp only [handlersStep] at ht
      split at ht
      · cases ht
      · split at ht
        · cases ht
          exact handlersInvariant_enter hinv (fun _ _ h => by cases h)
        · next decodedMat hdec =>
            split at ht
            · cases ht
              exact handlersInvariant_enter hinv (fun _ _ h => by cases h)
            · next hquery =>
                -- the handler goes on: nothing in the database is similar
                cases ht
                apply handlersInvariant_enter hinv
                intro image seen h
                cases h
                refine ⟨le_refl _, ?_⟩
                intro e he hsim
                rw [List.take_length] at he
                exact not_matched_of_query hquery ⟨e, he, hsim⟩
  | register handler answer =>
      simp only [handlersStep] at ht
      split at ht
      · next decodedMat seen hphase =>
          cases ht
          rcases registerFaceInsert_store observers s.gallery answer decodedMat with
            ⟨-, hstore⟩ | ⟨e, hans, himg, hstore⟩
          · rw [hstore]
            exact handlersInvariant_enter hinv (fun _ _ h => by cases h)
          · -- an entry is added: old entries by the query, newer ones by the guard
            have hno : NoDuplicates V (s.gallery ++ [e]) := by
              rw [noDuplicates_snoc, himg]
              refine ⟨hinv.noDuplicates, ?_⟩
              intro older holder
              rw [← List.take_append_drop seen s.gallery] at holder
              rcases List.mem_append.1 holder with hold | hnew
              · exact (hinv.queried handler decodedMat seen hphase).2 older hold
              · exact hguard decodedMat seen hphase hans older hnew
            rw [hstore]
            exact handlersInvariant_grow
              (handlersInvariant_enter hinv (fun _ _ h => by cases h))
              (List.prefix_append s.gallery [e]) hno
      · cases ht

/-- An insertion outside the guard adds a duplicate, if the image shows a face: an image without
one is similar to nothing. -/
theorem not_noDuplicates_of_not_guard (hguard : ¬ NothingSimilarSince V s c)
    (ht : handlersStep V observers s c = some t) : ¬ NoDuplicates V t.gallery := by
  cases c with
  | query handler request => exact absurd trivial hguard
  | register handler answer =>
      simp only [NothingSimilarSince, not_forall, not_not] at hguard
      obtain ⟨decodedMat, seen, hphase, hans, older, holder, hsim⟩ := hguard
      simp only [handlersStep, hphase, Option.some.injEq] at ht
      have hface : V.detectFaces decodedMat ≠ [] := by
        intro hnone
        exact V.not_matched_of_no_face hnone
          ⟨older, List.mem_of_mem_drop holder, hsim⟩
      rcases registerFaceInsert_store observers s.gallery answer decodedMat with
        ⟨hwhy, -⟩ | ⟨e, -, himg, hstore⟩
      · rcases hwhy with hnone | hnone
        · exact absurd hnone hface
        · exact absurd hnone hans
      · rw [← ht]
        show ¬ NoDuplicates V (registerFaceInsert V observers s.gallery answer decodedMat).store
        rw [hstore, noDuplicates_snoc, himg]
        rintro ⟨-, hnone⟩
        exact hnone older (List.mem_of_mem_drop holder) hsim

end Step

theorem handlersInvariant_init : HandlersInvariant V ({} : RegisterHandlers V) := by
  refine ⟨?_, List.Pairwise.nil⟩
  intro handler decodedMat seen h
  cases h

/-- **Concurrent registrations.** In a run of any number of handlers no duplicate is ever in the
database exactly if every insertion comes before any similar one since the handler's own query. -/
theorem no_duplicates_iff {cs : List RegisterCall} {s : RegisterHandlers V}
    (h : Run (handlersStep V observers) {} cs s) :
    Always (handlersStep V observers) (fun t => NoDuplicates V t.gallery) {} cs ↔
      GuardedRun (handlersStep V observers) (NothingSimilarSince V) {} cs s := by
  apply Run.always_iff_guarded (I := HandlersInvariant V) (P := fun t => NoDuplicates V t.gallery)
    (handlersInvariant_init V) _ _ _ h
  · exact fun s hs => hs.noDuplicates
  · exact fun s c t hs hg ht => handlersInvariant_step hs hg ht
  · exact fun s c t _ hg ht => not_noDuplicates_of_not_guard hg ht

/-- A request with the image `n` of the sample. -/
def sampleRequest (n : UInt8) : RegisterRequest := { faceImg := [n] }

/-- One handler after the other: the second finds the face registered. -/
def inTurn : List RegisterCall :=
  [.query 0 (sampleRequest 2), .register 0 (some 0), .query 1 (sampleRequest 2)]

theorem no_duplicates_in_turn :
    ∃ s, Run (handlersStep sampleVision [7]) {} inTurn s ∧
      (Always (handlersStep sampleVision [7]) (fun t => NoDuplicates sampleVision t.gallery) {}
          inTurn ↔
        GuardedRun (handlersStep sampleVision [7]) (NothingSimilarSince sampleVision) {}
          inTurn s) := by
  have hsome : (exec (handlersStep sampleVision [7]) {} inTurn).isSome = true := by
    decide +kernel
  obtain ⟨s, hs⟩ := Option.isSome_iff_exists.1 hsome
  exact ⟨s, run_iff_exec.2 hs, no_duplicates_iff sampleVision [7] (run_iff_exec.2 hs)⟩

/-- Two handlers query before either registers: the same face is stored twice. -/
theorem duplicates_stored :
    ∃ s, Run (handlersStep sampleVision [7]) {}
        [.query 0 (sampleRequest 2), .query 1 (sampleRequest 2), .register 0 (some 0),
          .register 1 (some 1)] s ∧
      s.gallery.map (fun e => (e.index, e.image)) = [(0, 2), (1, 2)] ∧
      ¬ NoDuplicates sampleVision s.gallery := by
  refine ⟨_, .snoc (.snoc (.snoc (.snoc .nil rfl) rfl) rfl) rfl, ?_, ?_⟩
  · decide +kernel
  · decide +kernel

end ArmFaceID.Server
