import ArmFaceID.Server.Engine
import ArmFaceID.Library.FirstBest

/-!
# Recognition picks the best user

`RecognizeFaceFromDb` and `IsAlreadyExistInDB` are two loops over the cached users, written apart.
Both keep the first user of greatest similarity, if that is at least `0.6`
(`recognizeFaceFromDb_eq_firstBest`, `recognition_picks_best`), and they agree on every list, also
where an image cannot be decoded (`isAlreadyExistInDB_eq`).
-/

set_option autoImplicit false

namespace ArmFaceID.Server

open ArmFaceID.Library

variable {Mat QImage : Type} (V : Vision Mat QImage) (observers : List Observer)

/-- What recognition gives back when `best` is the user found. -/
def recognitionOf (img : Mat) : Option User → Recognition Mat
  | none => ⟨-1, none, []⟩
  | some u => ⟨u.id, some u, notifyAll observers (.onFaceRecognized img {} u.id)⟩

/-- The cached users' stored images have these similarities with `img`. -/
def Similarities (users : List User) (img : Mat) (sim : User → Similarity) : Prop :=
  ∀ u ∈ users, compareUser V img u = .ok (sim u)

/-- The similarity of a cached user's stored image with `img`; `⊥` where it cannot be decoded. -/
def similarityTo (img : Mat) (u : User) : Similarity :=
  match compareUser V img u with
  | .ok s => s
  | .error _ => ⊥

section Loops

variable {V observers} {users : List User} {img : Mat} {sim : User → Similarity}

/-- The loop keeps the greater of the scored users. -/
theorem recognizeLoop_eq (hsim : Similarities V users img sim) (start : Similarity × User) :
    users.foldlM (recognizeBody V img) start =
      .ok (runningMax start (users.map fun u => (sim u, u))) := by
  induction users generalizing start with
  | nil => rfl
  | cons u users ih =>
      have hu : compareUser V img u = .ok (sim u) := hsim u List.mem_cons_self
      have hbody : recognizeBody V img start u = .ok (keepGreater start (sim u, u)) := by
        show (compareUser V img u >>= _) = _
        rw [hu]
        by_cases hlt : start.1 < sim u
        · rw [keepGreater, if_pos hlt]
          exact if_pos hlt
        · rw [keepGreater, if_neg hlt]
          exact if_neg hlt
      rw [List.foldlM_cons, hbody]
      exact ih (fun v hv => hsim v (List.mem_cons_of_mem _ hv)) _

variable (observers) in
/-- `RecognizeFaceFromDb` finds the first user of greatest similarity, if it is at least `0.6`. -/
theorem recognizeFaceFromDb_eq_firstBest (hsim : Similarities V users img sim) :
    recognizeFaceFromDb V observers users img =
      .ok (recognitionOf observers img (firstBest sim compareThreshold users)) := by
  -- the scan ends with the argmax, or with its start where nothing beats `0`
  have hloop := recognizeLoop_eq hsim recognizeStart
  rw [runningMax_map_eq] at hloop
  rw [recognizeFaceFromDb, hloop]
  show Except.ok (recognizeFinish observers img _) = _
  congr 1
  rw [firstBest, recognizeFinish]
  cases users.argmax sim with
  | none => exact if_pos zero_lt_compareThreshold
  | some m =>
      by_cases hm : compareThreshold ≤ sim m
      · have hkeep : keepGreater recognizeStart (sim m, m) = (sim m, m) :=
          keepGreater_of_lt (lt_of_lt_of_le zero_lt_compareThreshold hm)
        simp only [hkeep, if_neg (not_lt_of_ge hm), Option.filter_some, hm, decide_true, if_true,
          recognitionOf]
      · -- neither the greatest similarity nor the start reaches the threshold
        have hlow : (keepGreater recognizeStart (sim m, m)).1 < compareThreshold := by
          rcases keepGreater_eq_or recognizeStart (sim m, m) with h | h
          · rw [h]
            exact zero_lt_compareThreshold
          · rw [h]
            exact lt_of_not_ge hm
        simp only [if_pos hlow, Option.filter_some, hm, decide_false, Bool.false_eq_true, if_false,
          recognitionOf]

/-- The two loops side by side: they fail alike, and end with the same user unless both end with
what they started with. -/
theorem existLoop_agrees (users : List User) (img : Mat) (top top' : Similarity × User)
    (h : top.1 = top'.1) :
    (∃ err, users.foldlM (recognizeBody V img) top = .error err ∧
        users.foldlM (existBody V img) top' = .error err) ∨
      ∃ r r', users.foldlM (recognizeBody V img) top = .ok r ∧
        users.foldlM (existBody V img) top' = .ok r' ∧ (r = r' ∨ r = top ∧ r' = top') := by
  -- the induction keeps the similarities equal; the users may differ at the start
  induction users generalizing top top' with
  | nil => exact Or.inr ⟨top, top', rfl, rfl, Or.inr ⟨rfl, rfl⟩⟩
  | cons u users ih =>
      rw [List.foldlM_cons, List.foldlM_cons, recognizeBody, existBody]
      cases hs : compareUser V img u with
      | error err => exact Or.inl ⟨err, rfl, rfl⟩
      | ok s =>
          by_cases hlt : top.1 < s
          · -- both take this user, and go on alike
            have hlt' : top'.1 < s := h ▸ hlt
            simp only [bind, Except.bind, if_pos hlt, if_pos hlt', pure, Except.pure]
            rcases ih (s, u) (s, u) rfl with herr | ⟨r, r', hr, hr', hrel⟩
            · exact Or.inl herr
            · refine Or.inr ⟨r, r', hr, hr', Or.inl ?_⟩
              rcases hrel with hrel | ⟨hrel, hrel'⟩
              · exact hrel
              · rw [hrel, hrel']
          · have hlt' : ¬ top'.1 < s := h ▸ hlt
            simp only [bind, Except.bind, if_neg hlt, if_neg hlt', pure, Except.pure]
            exact ih top top' h

variable (V observers) in
/-- `IsAlreadyExistInDB` answers as `RecognizeFaceFromDb` does, without the calls. -/
theorem isAlreadyExistInDB_eq (users : List User) (img : Mat) (indeterminate : Int) :
    isAlreadyExistInDB V users img indeterminate =
      (recognizeFaceFromDb V observers users img).map fun r => ⟨r.info.isSome, r.info, []⟩ := by
  rw [isAlreadyExistInDB, recognizeFaceFromDb]
  rcases existLoop_agrees users img recognizeStart (0, { id := indeterminate }) rfl with
    ⟨err, hr, hr'⟩ | ⟨r, r', hr, hr', hrel⟩
  · rw [hr, hr']
    rfl
  · rw [hr, hr']
    show Except.ok (existFinish r') = .ok _
    congr 1
    rw [recognizeFinish, existFinish]
    rcases hrel with rfl | ⟨rfl, rfl⟩
    · by_cases hlow : r.1 < compareThreshold
      · rw [if_pos hlow, if_neg (not_le_of_gt hlow)]
        rfl
      · rw [if_neg hlow, if_pos (le_of_not_gt hlow)]
        rfl
    · -- both ended with the similarity they started with, which is too low
      have hlow : (recognizeStart).1 < compareThreshold := zero_lt_compareThreshold
      have hlow' : ¬ compareThreshold ≤ ((0, { id := indeterminate }) : Similarity × User).1 :=
        not_le_of_gt zero_lt_compareThreshold
      rw [if_pos hlow, if_neg hlow']
      rfl

theorem isAlreadyExistInDB_eq_firstBest (hsim : Similarities V users img sim)
    (indeterminate : Int) :
    isAlreadyExistInDB V users img indeterminate =
      .ok ⟨(firstBest sim compareThreshold users).isSome, firstBest sim compareThreshold users,
        []⟩ := by
  rw [isAlreadyExistInDB_eq V [], recognizeFaceFromDb_eq_firstBest [] hsim]
  cases firstBest sim compareThreshold users with
  | none => rfl
  | some u => rfl

/-- A recognition that ends normally has compared every user. -/
theorem similarities_of_ok {r : Recognition Mat}
    (h : recognizeFaceFromDb V observers users img = .ok r) :
    Similarities V users img (similarityTo V img) := by
  intro u hu
  obtain ⟨top, hloop, -⟩ := bind_eq_ok h
  obtain ⟨scored, hscored, -⟩ := recognizeLoop_eq_ok hloop
  obtain ⟨s, hs, -⟩ := scored_of_mem hscored hu
  rw [hs, similarityTo, hs]

theorem Similarities.perm {users' : List User} (hsim : Similarities V users img sim)
    (hperm : users.Perm users') : Similarities V users' img sim :=
  fun u hu => hsim u (hperm.mem_iff.2 hu)

end Loops

/-- The greatest similarity is reached by one user only. -/
def OnlyBest (sim : User → Similarity) (users : List User) : Prop :=
  ∀ u ∈ users, ∀ v ∈ users, (∀ w ∈ users, sim w ≤ sim u) → (∀ w ∈ users, sim w ≤ sim v) → u = v

/-- **Recognition picks the best user.** If some similarity is at least `0.6`, the first user of
greatest similarity is returned, written to `*info` and announced once to each observer; otherwise
the answer is `-1` and nothing is written or announced. `IsAlreadyExistInDB` finds the same user and
announces nobody. If only one user is best, the order of the users does not matter. -/
theorem recognition_picks_best (users : List User) (img : Mat) (sim : User → Similarity)
    (hsim : Similarities V users img sim) (info : Option User) (indeterminate : Int) :
    ∃ r e, recognizeFaceFromDb V observers users img = .ok r ∧
      isAlreadyExistInDB V users img indeterminate = .ok e ∧
      ((∃ u ∈ users, compareThreshold ≤ sim u) →
        ∃ u, IsFirstBest sim users u ∧ r.id = u.id ∧
          writeInfo info r.info = info.map (fun _ => u) ∧
          r.calls = observers.map (fun o => (o, .onFaceRecognized img {} u.id)) ∧
          e.found = true ∧ writeInfo info e.user = info.map fun _ => u) ∧
      ((∀ u ∈ users, ¬ compareThreshold ≤ sim u) →
        r.id = -1 ∧ writeInfo info r.info = info ∧ r.calls = [] ∧
          e.found = false ∧ writeInfo info e.user = info) ∧
      e.calls = [] ∧
      (OnlyBest sim users → ∀ users', users.Perm users' →
        recognizeFaceFromDb V observers users' img = .ok r ∧
          isAlreadyExistInDB V users' img indeterminate = .ok e) := by
  refine ⟨_, _, recognizeFaceFromDb_eq_firstBest observers hsim,
    isAlreadyExistInDB_eq_firstBest hsim indeterminate, ?_, ?_, rfl, ?_⟩
  · rintro ⟨v, hv, hle⟩
    obtain ⟨u, hu⟩ := exists_firstBest hv hle
    rw [hu]
    exact ⟨u, (firstBest_eq_some hu).1, rfl, rfl, rfl, rfl, rfl⟩
  · intro hlow
    have hnone : firstBest sim compareThreshold users = none :=
      firstBest_eq_none_iff.2 fun u hu => lt_of_not_ge (hlow u hu)
    have hkeep : writeInfo info none = info := by cases info <;> rfl
    rw [hnone]
    exact ⟨rfl, hkeep, rfl, rfl, hkeep⟩
  · intro honly users' hperm
    have hsame : firstBest sim compareThreshold users' = firstBest sim compareThreshold users :=
      firstBest_perm hperm honly
    rw [← hsame]
    exact ⟨recognizeFaceFromDb_eq_firstBest observers (hsim.perm hperm),
      isAlreadyExistInDB_eq_firstBest (hsim.perm hperm) indeterminate⟩

/-- Two users, the second of whom is the one shown. -/
def twoUsers : List User := [{ id := 1, faceImgBytes := [3] }, { id := 2, faceImgBytes := [2] }]

theorem recognition_picks_second :
    let sim : User → Similarity := fun u => if u.faceImgBytes = [2] then ((1 : ℚ) : Similarity) else 0
    ∃ r e, recognizeFaceFromDb sampleVision [7, 8] twoUsers 2 = .ok r ∧
      isAlreadyExistInDB sampleVision twoUsers 2 5 = .ok e ∧
      (∃ u, IsFirstBest sim twoUsers u ∧ r.id = u.id ∧ e.found = true) ∧
      r.calls = [(7, .onFaceRecognized 2 {} 2), (8, .onFaceRecognized 2 {} 2)] := by
  intro sim
  have hsim : Similarities sampleVision twoUsers 2 sim := by
    intro u hu
    have hcases : u = { id := 1, faceImgBytes := [3] } ∨ u = { id := 2, faceImgBytes := [2] } := by
      simpa [twoUsers] using hu
    rcases hcases with rfl | rfl
    · decide +kernel
    · decide +kernel
  obtain ⟨r, e, hr, he, hfound, -, -, -⟩ :=
    recognition_picks_best sampleVision [7, 8] twoUsers 2 sim hsim (some {}) 5
  have hhigh : ∃ u ∈ twoUsers, compareThreshold ≤ sim u :=
    ⟨{ id := 2, faceImgBytes := [2] }, by decide, by decide +kernel⟩
  obtain ⟨u, hbest, hid, -, hcalls, hyes, -⟩ := hfound hhigh
  have hid' : (recognizeFaceFromDb sampleVision [7, 8] twoUsers 2).toOption.map (fun r => r.id) =
      some 2 := by decide +kernel
  rw [hr] at hid'
  have htwo : u.id = 2 := hid.symm.trans (Option.some.inj hid')
  rw [htwo] at hcalls
  exact ⟨r, e, hr, he, ⟨u, hbest, hid, hyes⟩, hcalls⟩

end ArmFaceID.Server
