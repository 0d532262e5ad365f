import ArmFaceID.Server.Engine
import ArmFaceID.Library.Machine

/-!
# Recognition during a reload

`LoadToCache` clears `users_` and appends the rows one at a time; `RecognizeFaceFromDb` walks over
`users_` on another thread, and neither takes a lock on it. The loop fixes `begin()` and `end()`
when it starts. A `clear()`, or a `push_back` that reallocates, invalidates both.

If no recognition starts while rows are still to be appended, and no reload starts during a
recognition, the answer is the one on the old or on the new users (`reload_not_seen`). A user cached
under `-1`, as an id of 64 bits can become when it is narrowed, is answered with `-1` in any case.
-/

set_option autoImplicit false

namespace ArmFaceID.Server

open ArmFaceID.Library

variable {Mat QImage : Type} (V : Vision Mat QImage) (observers : List Observer) (img : Mat)

/-- Where `LoadToCache` is: after the `SELECT` with its rows, or with rows left to append. -/
inductive LoaderPhase where
  | selected (rows : List User)
  | filling (rest : List User)

/-- Where `RecognizeFaceFromDb` is: before its loop, in it with the place of the iterator, the place
of `end()`, `top_similarity` and `user`, in it with invalid iterators, or returned. -/
inductive ReaderPhase (Mat : Type) where
  | waiting
  | scanning (next stop : Nat) (top : Similarity × User)
  | invalidated
  | answered (answer : Except CvException (Recognition Mat))

/-- A loop under way loses its iterators. -/
def ReaderPhase.invalidate : ReaderPhase Mat → ReaderPhase Mat
  | .scanning _ _ _ => .invalidated
  | phase => phase

/-- `users_` and the two threads. -/
structure Reload (Mat : Type) where
  users : List User
  loader : LoaderPhase
  reader : ReaderPhase Mat := .waiting

/-- Before the reload: the old users, and the rows the `SELECT` has found. -/
def Reload.start (db : FaceDataBase) : Reload Mat where
  users := db.users
  loader := .selected (db.tbUser.rows.map UserRow.cached)

inductive ReloadEvent where
  | clear
  | append (reallocates : Bool)
  | scanBegin
  | scanNext
  | scanEnd

/-- One operation on the container, with what the thread does until its next one. -/
def reloadStep (s : Reload Mat) : ReloadEvent → Option (Reload Mat)
  | .clear =>
      match s.loader with
      | .selected rows =>
          some { users := [], loader := .filling rows, reader := s.reader.invalidate }
      | .filling _ => none
  | .append reallocates =>
      match s.loader with
      | .filling (user :: rest) =>
          some {
            users := s.users ++ [user]
            loader := .filling rest
            reader := if reallocates then s.reader.invalidate else s.reader }
      | _ => none
  | .scanBegin =>
      match s.reader with
      | .waiting => some { s with reader := .scanning 0 s.users.length recognizeStart }
      | _ => none
  | .scanNext =>
      match s.reader with
      | .scanning next stop top =>
          if next < stop then
            s.users[next]?.map fun iter =>
              match recognizeBody V img top iter with
              | .ok top => { s with reader := .scanning (next + 1) stop top }
              | .error err => { s with reader := .answered (.error err) }
          else none
      | _ => none
  | .scanEnd =>
      match s.reader with
      | .scanning next stop top =>
          if next = stop then
            some { s with reader := .answered (.ok (recognizeFinish observers img top)) }
          else none
      | _ => none

/-- The container operations of a reload in a row are `loadToCache`. -/
theorem loadToCache_eq_steps (db : FaceDataBase) :
    ∃ s, exec (reloadStep V observers img) (Reload.start db)
        (.clear :: List.replicate db.tbUser.rows.length (.append false)) = some s ∧
      s.users = (db.loadToCache true).users ∧ s.loader = .filling [] := by
  -- the users appended so far and the rest are all the rows
  have key : ∀ (rest : List User) (s : Reload Mat), s.loader = .filling rest →
      ∃ t, exec (reloadStep V observers img) s (List.replicate rest.length (.append false)) =
          some t ∧ t.users = s.users ++ rest ∧ t.loader = .filling [] := by
    intro rest
    induction rest with
    | nil => exact fun s hs => ⟨s, rfl, by simp, hs⟩
    | cons user rest ih =>
        intro s hs
        obtain ⟨t, ht, husers, hloader⟩ :=
          ih { users := s.users ++ [user], loader := .filling rest, reader := s.reader } rfl
        refine ⟨t, ?_, ?_, hloader⟩
        · rw [List.length_cons, List.replicate_succ]
          simp only [exec, reloadStep, hs, Bool.false_eq_true, if_false, Option.bind_some]
          exact ht
        · rw [husers]
          simp
  obtain ⟨t, ht, husers, hloader⟩ := key (db.tbUser.rows.map UserRow.cached)
    { users := [], loader := .filling (db.tbUser.rows.map UserRow.cached), reader := .waiting } rfl
  refine ⟨t, ?_, by simpa using husers, hloader⟩
  rw [List.length_map] at ht
  exact ht

/-! ## What the reader sees -/

/-- Rows are left to append. -/
def LoaderPhase.Partial : LoaderPhase → Prop
  | .filling (_ :: _) => True
  | _ => False

/-- The loop over `users_` is under way. -/
def ReaderPhase.Scanning : ReaderPhase Mat → Prop
  | .scanning _ _ _ => True
  | _ => False

/-- The reload does not start during a recognition, and no recognition starts while rows are left to
append. -/
def KeepsApart (s : Reload Mat) : ReloadEvent → Prop
  | .clear => ¬ s.reader.Scanning
  | .scanBegin => ¬ s.loader.Partial
  | _ => True

instance (phase : LoaderPhase) : Decidable phase.Partial :=
  match phase with
  | .selected _ => isFalse id
  | .filling [] => isFalse id
  | .filling (_ :: _) => isTrue trivial

instance (phase : ReaderPhase Mat) : Decidable phase.Scanning :=
  match phase with
  | .waiting => isFalse id
  | .scanning _ _ _ => isTrue trivial
  | .invalidated => isFalse id
  | .answered _ => isFalse id

instance (s : Reload Mat) (e : ReloadEvent) : Decidable (KeepsApart s e) :=
  match e with
  | .clear => inferInstanceAs (Decidable (¬ _))
  | .append _ => isTrue trivial
  | .scanBegin => inferInstanceAs (Decidable (¬ _))
  | .scanNext => isTrue trivial
  | .scanEnd => isTrue trivial

/-- What `users_` holds at each stage of the reload. -/
def LoaderInvariant (old new users : List User) : LoaderPhase → Prop
  | .selected rows => users = old ∧ rows = new
  | .filling rest => users ++ rest = new

/-- A loop under way is over all the users, old or new, and the part done agrees with the fold of
`recognizeFaceFromDb`. -/
def ReaderInvariant (old new : List User) (s : Reload Mat) : ReaderPhase Mat → Prop
  | .waiting => True
  | .scanning next stop top =>
      stop = s.users.length ∧ ¬ s.loader.Partial ∧ (s.users = old ∨ s.users = new) ∧
        (s.users.take next).foldlM (recognizeBody V img) recognizeStart = .ok top
  | .invalidated => False
  | .answered answer =>
      answer = recognizeFaceFromDb V observers old img ∨
        answer = recognizeFaceFromDb V observers new img

structure ReloadInvariant (old new : List User) (s : Reload Mat) : Prop where
  loader : LoaderInvariant old new s.users s.loader
  reader : ReaderInvariant V observers img old new s s.reader

section Step

variable {V observers img} {old new : List User} {s t : Reload Mat} {e : ReloadEvent}

/-- When no row is left to append, the users are the old or the new ones. -/
theorem old_or_new (h : LoaderInvariant old new s.users s.loader) (hpart : ¬ s.loader.Partial) :
    s.users = old ∨ s.users = new := by
  cases hloader : s.loader with
  | selected rows =>
      rw [hloader] at h
      exact Or.inl h.1
  | filling rest =>
      rw [hloader] at h hpart
      cases rest with
      | nil => exact Or.inr (by simpa [LoaderInvariant] using h)
      | cons user rest => exact absurd trivial hpart

/-- A reader that is not scanning does not look at the container. -/
theorem readerInvariant_of_not_scanning {phase : ReaderPhase Mat}
    (h : ReaderInvariant V observers img old new s phase) (hscan : ¬ phase.Scanning) :
    ReaderInvariant V observers img old new t phase := by
  cases phase with
  | waiting => trivial
  | scanning next stop top => exact absurd trivial hscan
  | invalidated => exact h
  | answered answer => exact h

theorem invalidate_of_not_scanning {phase : ReaderPhase Mat} (hscan : ¬ phase.Scanning) :
    phase.invalidate = phase := by
  cases phase with
  | waiting => rfl
  | scanning next stop top => exact absurd trivial hscan
  | invalidated => rfl
  | answered answer => rfl

/-- A loop ends early when its body throws. -/
theorem foldlM_error_of_take {α β ε : Type} {f : β → α → Except ε β} {l : List α} {b b' : β}
    {i : Nat} {a : α} {err : ε} (hpre : (l.take i).foldlM f b = .ok b') (ha : l[i]? = some a)
    (herr : f b' a = .error err) : l.foldlM f b = .error err := by
  obtain ⟨hlt, hget⟩ := List.getElem?_eq_some_iff.1 ha
  rw [← List.take_append_drop i l, List.foldlM_append, hpre, List.drop_eq_getElem_cons hlt, hget]
  show (f b' a >>= fun b => (l.drop (i + 1)).foldlM f b) = .error err
  rw [herr]
  rfl

/-- One more pass of a loop. -/
theorem foldlM_take_succ {α β ε : Type} {f : β → α → Except ε β} {l : List α} {b b' : β}
    {i : Nat} {a : α} (hpre : (l.take i).foldlM f b = .ok b') (ha : l[i]? = some a) :
    (l.take (i + 1)).foldlM f b = f b' a := by
  rw [List.take_add_one, ha, List.foldlM_append, hpre]
  show (f b' a >>= fun b => Except.ok b) = f b' a
  cases f b' a with
  | error err => rfl
  | ok b => rfl

/-- While rows are left to append, no loop is under way. -/
theorem not_scanning_of_partial (hreader : ReaderInvariant V observers img old new s s.reader)
    (hpart : s.loader.Partial) : ¬ s.reader.Scanning := by
  intro hscan
  cases hr : s.reader with
  | scanning next stop top =>
      rw [hr] at hreader
      exact hreader.2.1 hpart
  | waiting => rw [hr] at hscan; exact hscan
  | invalidated => rw [hr] at hscan; exact hscan
  | answered answer => rw [hr] at hscan; exact hscan

/-- The answer on the users of the moment is the one on the old or on the new users. -/
theorem readerInvariant_answered {answer : Except CvException (Recognition Mat)}
    (hwhole : s.users = old ∨ s.users = new)
    (hanswer : recognizeFaceFromDb V observers s.users img = answer) :
    ReaderInvariant V observers img old new t (.answered answer) := by
  rcases hwhole with h | h
  · exact Or.inl (by rw [← h, hanswer])
  · exact Or.inr (by rw [← h, hanswer])

theorem reloadInvariant_step (hinv : ReloadInvariant V observers img old new s)
    (hguard : KeepsApart s e) (ht : reloadStep V observers img s e = some t) :
    ReloadInvariant V observers img old new t := by
  obtain ⟨hloader, hreader⟩ := hinv
  cases e with
  | clear =>
      simp only [reloadStep] at ht
      split at ht
      · next rows hphase =>
          rw [hphase] at hloader
          cases ht
          refine ⟨hloader.2, ?_⟩
          show ReaderInvariant V observers img old new _ s.reader.invalidate
          rw [invalidate_of_not_scanning hguard]
          exact readerInvariant_of_not_scanning hreader hguard
      · cases ht
  | append reallocates =>
      simp only [reloadStep] at ht
      split at ht
      · next user rest hphase =>
          have hscan : ¬ s.reader.Scanning := by
            apply not_scanning_of_partial hreader
            rw [hphase]
            trivial
          rw [hphase] at hloader
          cases ht
          refine ⟨?_, ?_⟩
          · show s.users ++ [user] ++ rest = new
            rw [List.append_assoc]
            exact hloader
          · rw [invalidate_of_not_scanning hscan, ite_self]
            exact readerInvariant_of_not_scanning hreader hscan
      · cases ht
  | scanBegin =>
      simp only [reloadStep] at ht
      split at ht
      · cases ht
        exact ⟨hloader, rfl, hguard, old_or_new hloader hguard, rfl⟩
      · cases ht
  | scanNext =>
      simp only [reloadStep] at ht
      split at ht
      · next next stop top hphase =>
          rw [hphase] at hreader
          obtain ⟨hstop, hpart, hwhole, hdone⟩ := hreader
          split at ht
          · obtain ⟨iter, hiter, ht⟩ := Option.map_eq_some_iff.1 ht
            have hnext := foldlM_take_succ hdone hiter
            split at ht
            · next top' hbody =>
                subst ht
                exact ⟨hloader, hstop, hpart, hwhole, hnext.trans hbody⟩
            · next err hbody =>
                -- the exception leaves the loop, as it does on the whole list
                subst ht
                refine ⟨hloader, readerInvariant_answered hwhole ?_⟩
                rw [recognizeFaceFromDb, foldlM_error_of_take hdone hiter hbody]
                rfl
          · cases ht
      · cases ht
  | scanEnd =>
      simp only [reloadStep] at ht
      split at ht
      · next next stop top hphase =>
          rw [hphase] at hreader
          obtain ⟨hstop, hpart, hwhole, hdone⟩ := hreader
          split at ht
          · next hend =>
              cases ht
              refine ⟨hloader, readerInvariant_answered hwhole ?_⟩
              rw [hend, hstop, List.take_length] at hdone
              rw [recognizeFaceFromDb, hdone]
              rfl
          · cases ht
      · cases ht

end Step

/-- Nobody is cached under `-1`, neither before the reload nor after it. -/
def NobodyCachedAsNone (db : FaceDataBase) : Prop :=
  (∀ u ∈ db.users, u.id ≠ -1) ∧ ∀ row ∈ db.tbUser.rows, toInt32 row.userId ≠ -1

instance (db : FaceDataBase) : Decidable (NobodyCachedAsNone db) :=
  inferInstanceAs (Decidable (_ ∧ _))

theorem NobodyCachedAsNone.after {db : FaceDataBase} (h : NobodyCachedAsNone db) :
    ∀ u ∈ (db.loadToCache true).users, u.id ≠ -1 := by
  intro u hu
  rw [FaceDataBase.loadToCache_users] at hu
  obtain ⟨row, hrow, rfl⟩ := List.mem_map.1 hu
  exact h.2 row hrow

/-- A face known to the users is not answered with `-1`, unless somebody is cached under it. -/
theorem id_ne_of_known {users : List User} {found : Recognition Mat} (hids : ∀ u ∈ users, u.id ≠ -1)
    (hknown : Known V users img) (h : recognizeFaceFromDb V observers users img = .ok found) :
    found.id ≠ -1 := by
  rcases recognizeFaceFromDb_cases h with ⟨hnot, -⟩ | ⟨u, hu, -, rfl⟩
  · exact absurd hknown hnot
  · exact hids u hu

/-- **A reload is not seen half done** in a run that keeps recognition and reload apart: the answer
is the one on the old or on the new users. If nobody is cached under `-1`, a user known in both is
not answered with `-1`, and `RegisterFace(frame, user)` inserts nobody on that answer. -/
theorem reload_not_seen {db : FaceDataBase} {es : List ReloadEvent} {s : Reload Mat}
    (h : GuardedRun (reloadStep V observers img) KeepsApart (Reload.start db) es s) :
    s.reader ≠ .invalidated ∧ ∀ answer, s.reader = .answered answer →
      (answer = recognizeFaceFromDb V observers db.users img ∨
        answer = recognizeFaceFromDb V observers (db.loadToCache true).users img) ∧
      (NobodyCachedAsNone db → ∀ u ∈ db.users, u ∈ (db.loadToCache true).users →
        (∃ similarity, compareUser V img u = .ok similarity ∧ compareThreshold ≤ similarity) →
        ∀ found, answer = .ok found → found.id ≠ -1 ∧
          ∀ (later : FaceDataBase) exec select user,
            (registerUserInsert V observers later exec select img user found.id).store = later) := by
  have hstart : ReloadInvariant V observers img db.users (db.loadToCache true).users
      (Reload.start db) := ⟨⟨rfl, db.loadToCache_users.symm⟩, trivial⟩
  have hinv : ReloadInvariant V observers img db.users (db.loadToCache true).users s :=
    h.invariant hstart fun _ _ _ => reloadInvariant_step
  have hreader := hinv.reader
  refine ⟨?_, ?_⟩
  · intro hinvalid
    rw [hinvalid] at hreader
    exact hreader
  · intro answer hanswer
    rw [hanswer] at hreader
    refine ⟨hreader, ?_⟩
    intro hids u hold hnew hsim found hfound
    have hne : found.id ≠ -1 := by
      rcases hreader with h' | h'
      · exact id_ne_of_known V observers img hids.1 ⟨u, hold, hsim⟩ (h'.symm.trans hfound)
      · exact id_ne_of_known V observers img hids.after ⟨u, hnew, hsim⟩ (h'.symm.trans hfound)
    refine ⟨hne, ?_⟩
    intro later exec select user
    rw [registerUserInsert, if_neg hne]

/-- The id a reader has answered. -/
def ReaderPhase.answeredId : ReaderPhase Mat → Option Int
  | .answered (.ok found) => some found.id
  | _ => none

/-- A recognition before a reload of the same single user. -/
def recognizeThenReload : List ReloadEvent :=
  [.scanBegin, .scanNext, .scanEnd, .clear, .append true]

theorem reload_not_seen_one_row :
    let db := ({ tbUser := oneRow } : FaceDataBase).loadToCache true
    ∃ s found, GuardedRun (reloadStep sampleVision [7] 2) KeepsApart (Reload.start db)
        recognizeThenReload s ∧
      s.reader = .answered (.ok found) ∧ found.id = 1 ∧
      (.ok found = recognizeFaceFromDb sampleVision [7] db.users 2 ∨
        .ok found = recognizeFaceFromDb sampleVision [7] (db.loadToCache true).users 2) ∧
      ∀ (later : FaceDataBase) exec select user,
        (registerUserInsert sampleVision [7] later exec select 2 user found.id).store = later := by
  intro db
  have hid : (exec (guardedStep (reloadStep sampleVision [7] 2) KeepsApart) (Reload.start db)
      recognizeThenReload).bind (fun s => s.reader.answeredId) = some 1 := by decide +kernel
  obtain ⟨s, hs, hans⟩ := Option.bind_eq_some_iff.1 hid
  have hrun := guardedRun_iff_exec.2 hs
  cases hreader : s.reader with
  | answered answer =>
      rw [hreader] at hans
      cases answer with
      | ok found =>
          obtain ⟨hone, hknown⟩ := (reload_not_seen sampleVision [7] 2 hrun).2 (.ok found) hreader
          have hids : NobodyCachedAsNone db := by decide
          have hann : ∃ similarity, compareUser sampleVision 2
              { id := 1, nickName := "Ann", faceImgBytes := [2] } = .ok similarity ∧
                compareThreshold ≤ similarity := ⟨((1 : ℚ) : Similarity), rfl, by decide +kernel⟩
          have hkept := hknown hids { id := 1, nickName := "Ann", faceImgBytes := [2] } (by decide)
            (by decide) hann found rfl
          exact ⟨s, found, hrun, hreader, Option.some.inj hans, hone, hkept.2⟩
      | error err => cases hans
  | waiting => rw [hreader] at hans; cases hans
  | scanning next stop top => rw [hreader] at hans; cases hans
  | invalidated => rw [hreader] at hans; cases hans

/-- A recognition between `clear()` and the first `push_back` answers `-1` for a user who is in the
cache before and after, and on that answer the user is inserted a second time. -/
theorem reload_seen :
    let db := ({ tbUser := oneRow } : FaceDataBase).loadToCache true
    ∃ s : Reload Nat, Run (reloadStep sampleVision [7] 2) (Reload.start db)
        [.clear, .scanBegin, .scanEnd] s ∧
      s.reader = .answered (.ok ⟨-1, none, []⟩) ∧
      recognizeFaceFromDb sampleVision [7] db.users 2 ≠ .ok ⟨-1, none, []⟩ ∧
      recognizeFaceFromDb sampleVision [7] (db.loadToCache true).users 2 ≠ .ok ⟨-1, none, []⟩ ∧
      (registerUserInsert sampleVision [7] db (some ⟨2, by decide⟩) true 2
        { nickName := "Ann" } (-1)).store.users.map (fun u => (u.id, u.faceImgBytes)) =
          [(1, [2]), (2, [2])] := by
  intro db
  have hfound : (recognizeFaceFromDb sampleVision [7] db.users 2).toOption.map (fun r => r.id) =
      some 1 := by decide +kernel
  have hne : recognizeFaceFromDb sampleVision [7] db.users 2 ≠ .ok ⟨-1, none, []⟩ := by
    intro h
    rw [h] at hfound
    cases hfound
  refine ⟨_, .snoc (.snoc (.snoc .nil rfl) rfl) rfl, ?_, hne, hne, ?_⟩
  · exact congrArg ReaderPhase.answered (recognizeFaceFromDb_nil (V := sampleVision))
  · decide +kernel

end ArmFaceID.Server
