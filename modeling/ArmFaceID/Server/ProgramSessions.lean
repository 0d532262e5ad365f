import ArmFaceID.Server.Program
import ArmFaceID.Server.Sessions

/-!
# The program over its sessions

The program (`Server/Program.lean`) is started on what the file of the database holds, runs for a
while, and ends, by an exception of its worker or otherwise; SeetaFace's database, the queues and the
signals end with it. Over any number of sessions nobody is added to the file. Who is greeted by the
window or named to a client was in the file at the first start (`known_from_the_file`), and an
installation that starts without the file knows nobody, whatever its clients, its camera and its
window do (`nobody_known`).
-/

set_option autoImplicit false

namespace ArmFaceID.Server

open ArmFaceID.Library

variable {Mat QImage : Type} (V : Vision Mat QImage) (detectMultiScale : Mat → List Rect)

/-- The file, with `tb_user` once it is created, and the program while it runs. -/
inductive InstalledProgram where
  | stopped (file : Option TbUser)
  | running (program : Program V)

inductive InstalledEvent (Mat : Type) where
  | start (exec : Bool)
  | program (e : ProgramEvent Mat)
  | exit

/-- The program once `main` has started everything, on a file. `exec` is the outcome of the `SELECT`
of `LoadToCache`. -/
def Program.launched (file : Option TbUser) (exec : Bool) : Program V where
  server := startServer V file exec

/-- One step. -/
def installedStep : InstalledProgram V → InstalledEvent Mat → Option (InstalledProgram V)
  | .stopped file, .start exec => some (.running (.launched V file exec))
  | .running program, .program e => (programStep V detectMultiScale program e).map .running
  | .running program, .exit => some (.stopped (some program.server.db.tbUser))
  | .stopped _, .program _ => none
  | .stopped _, .exit => none
  | .running _, .start _ => none

/-- The rows in the file. -/
def InstalledProgram.rows : InstalledProgram V → List UserRow
  | .stopped file => (initDb file).rows
  | .running program => program.server.db.tbUser.rows

/-- What there is to see: a message in the window, the reply to a `RecognizeFace`. -/
inductive Seen where
  | shown (message : ProgramMessage)
  | replied (reply : RpcReply RecognizeResult)
  deriving DecidableEq

/-- The replies of a step to calls of `RecognizeFace`. -/
def programReplies (s : Program V) : ProgramEvent Mat → List (RpcReply RecognizeResult)
  | .rpcRecognizeFace request =>
      [(rpcRecognizeFace V [elaGui] s.server.db.users request).handled.reply]
  | _ => []

/-- What a step shows. -/
def installedOutput : InstalledProgram V → InstalledEvent Mat → List Seen
  | .running program, .program e =>
      (programMessages V program e).map .shown ++ (programReplies V program e).map .replied
  | .running _, .start _ => []
  | .running _, .exit => []
  | .stopped _, _ => []

/-- All there is to see from the first start on. -/
def seenFrom (file : Option TbUser) (es : List (InstalledEvent Mat)) : List Seen :=
  outputs (installedStep V detectMultiScale) (installedOutput V) (.stopped file) es

/-! ## The invariant -/

/-- The cache of a running program holds users of the table, and its signals and messages are about
them. -/
def RunsOn (table : TbUser) : InstalledProgram V → Prop
  | .stopped _ => True
  | .running program => ∃ cached out, (∀ u ∈ cached, u ∈ table.rows.map UserRow.cached) ∧
      ProgramInvariant V table cached out program

/-- What the file, the program and all there is to see have to do with the table at the first
start. -/
structure InstalledInvariant (table : TbUser) (out : List Seen) (s : InstalledProgram V) : Prop where
  rows : s.rows.Sublist table.rows
  runs : RunsOn V table s
  shown : ∀ id message, .shown (.answered (.faceRecognized id) message) ∈ out →
    ∃ row ∈ table.rows, row.userId = id ∧ message = greeting row.nickName
  replied : ∀ result, .replied (.ok result) ∈ out →
    Consistent (table.rows.map UserRow.cached) result

section Invariant

variable {V detectMultiScale} {table : TbUser} {out : List Seen} {s t : InstalledProgram V}
  {e : InstalledEvent Mat} {program program' : Program V}

theorem Consistent.mono {users users' : List User} {result : RecognizeResult}
    (h : Consistent users result) (hmore : ∀ u ∈ users, u ∈ users') : Consistent users' result := by
  rcases h with hnobody | ⟨u, hu, hid, hname⟩
  · exact Or.inl hnobody
  · exact Or.inr ⟨u, hmore u hu, hid, hname⟩

/-- An OK reply of `RecognizeFace` names a cached user or nobody. -/
theorem consistent_of_reply {users : List User} {request : RecognizeRequest}
    {result : RecognizeResult}
    (h : (rpcRecognizeFace V [elaGui] users request).handled.reply = .ok result) :
    Consistent users result := by
  cases hmat : V.bytesToMat request.faceImg V.noMat with
  | error err =>
      rw [rpcRecognizeFace_of_error hmat] at h
      cases h
  | ok decodedMat =>
      rw [rpcRecognizeFace_of_ok hmat] at h
      cases hfound : recognizeFaceFromDb V [elaGui] users decodedMat with
      | error err =>
          rw [hfound] at h
          cases h
      | ok found =>
          rw [hfound] at h
          cases h
          exact consistent_of_recognized hfound

theorem consistent_of_programReplies {e : ProgramEvent Mat} {result : RecognizeResult}
    (h : .ok result ∈ programReplies V program e) :
    Consistent program.server.db.users result := by
  cases e with
  | rpcRecognizeFace request => exact consistent_of_reply (List.mem_singleton.1 h).symm
  | click nickName email => cases h
  | toggle toggled => cases h
  | onFrameCaptured frame => cases h
  | workerIteration => cases h
  | registerIteration => cases h
  | rpcRegister request answer => cases h
  | refresh => cases h
  | deleteSelected selectedIndexes => cases h
  | deliver => cases h

theorem installedInvariant_init (file : Option TbUser) :
    InstalledInvariant V (initDb file) [] (.stopped file) where
  rows := List.Sublist.refl _
  runs := trivial
  shown _ _ h := absurd h List.not_mem_nil
  replied _ h := absurd h List.not_mem_nil

/-- A start creates the table if the file lacks it, and caches its rows or nothing. -/
theorem installedInvariant_start {file : Option TbUser} (exec : Bool)
    (hinv : InstalledInvariant V table out (.stopped file)) :
    InstalledInvariant V table out (.running (.launched V file exec)) where
  rows := by
    show (startServer V file exec).db.tbUser.rows.Sublist table.rows
    rw [startServer, FaceDataBase.loadToCache_tbUser]
    exact hinv.rows
  runs := by
    have hrows : (startServer V file exec).db.tbUser.rows.Sublist table.rows := by
      rw [startServer, FaceDataBase.loadToCache_tbUser]
      exact hinv.rows
    refine ⟨_, [], ?_, programInvariant_init rfl hrows rfl⟩
    cases exec with
    | false => exact fun u hu => absurd hu List.not_mem_nil
    | true =>
        intro u hu
        have hu : u ∈ (FaceDataBase.loadToCache { tbUser := initDb file } true).users := hu
        rw [FaceDataBase.loadToCache_users] at hu
        exact (hinv.rows.map UserRow.cached).subset hu
  shown := hinv.shown
  replied := hinv.replied

/-- A step of the program. -/
theorem installedInvariant_program (hids : ∀ row ∈ table.rows, row.userId < 2 ^ 31)
    {e : ProgramEvent Mat} (hinv : InstalledInvariant V table out (.running program))
    (ht : programStep V detectMultiScale program e = some program') :
    InstalledInvariant V table (out ++ installedOutput V (.running program) (.program e))
      (.running program') := by
  obtain ⟨cached, before, hcached, hprogram⟩ := hinv.runs
  have hprogram' := programInvariant_step hids hcached hprogram ht
  refine ⟨hprogram'.rows, ⟨cached, _, hcached, hprogram'⟩, ?_, ?_⟩
  · intro id message hmem
    rcases List.mem_append.1 hmem with hold | hnew
    · exact hinv.shown id message hold
    · rcases List.mem_append.1 hnew with hmessage | hreply
      · obtain ⟨m, hm, heq⟩ := List.mem_map.1 hmessage
        cases heq
        exact hprogram'.answered (.faceRecognized id) message (List.mem_append_right _ hm)
      · obtain ⟨r, -, heq⟩ := List.mem_map.1 hreply
        cases heq
  · intro result hmem
    rcases List.mem_append.1 hmem with hold | hnew
    · exact hinv.replied result hold
    · rcases List.mem_append.1 hnew with hmessage | hreply
      · obtain ⟨m, -, heq⟩ := List.mem_map.1 hmessage
        cases heq
      · obtain ⟨r, hr, heq⟩ := List.mem_map.1 hreply
        cases heq
        apply (consistent_of_programReplies hr).mono
        rw [hprogram.users]
        exact hcached

theorem installedInvariant_step (hids : ∀ row ∈ table.rows, row.userId < 2 ^ 31)
    (hinv : InstalledInvariant V table out s)
    (ht : installedStep V detectMultiScale s e = some t) :
    InstalledInvariant V table (out ++ installedOutput V s e) t := by
  cases s with
  | stopped file =>
      cases e with
      | start exec =>
          cases ht
          rw [installedOutput, List.append_nil]
          exact installedInvariant_start exec hinv
      | program e => cases ht
      | exit => cases ht
  | running program =>
      cases e with
      | start exec => cases ht
      | program e =>
          obtain ⟨program', hprogram', rfl⟩ := Option.map_eq_some_iff.1 ht
          exact installedInvariant_program hids hinv hprogram'
      | exit =>
          cases ht
          rw [installedOutput, List.append_nil]
          exact ⟨hinv.rows, trivial, hinv.shown, hinv.replied⟩

/-- The invariant over all sessions. -/
theorem installedInvariant_run {file : Option TbUser} {es : List (InstalledEvent Mat)}
    (h : Run (installedStep V detectMultiScale) (.stopped file) es s)
    (hids : ∀ row ∈ (initDb file).rows, row.userId < 2 ^ 31) :
    InstalledInvariant V (initDb file) (seenFrom V detectMultiScale file es) s := by
  apply h.outputs_invariant (I := fun _ out s => InstalledInvariant V (initDb file) out s)
  · exact installedInvariant_init file
  · intro es out s e t hinv ht
    exact installedInvariant_step hids hinv ht

end Invariant

variable {V detectMultiScale} in
/-- **Who is known comes from the file.** Over any sessions of the program, on a file whose ids fit an
`int`: the rows in the file are some of those at the first start, in their order; every message for a
recognition greets a person of these rows by name; and every OK reply of `RecognizeFace` gives the
id and the name of one of them, or `-1` and no name. -/
theorem known_from_the_file {file : Option TbUser} {es : List (InstalledEvent Mat)}
    {s : InstalledProgram V}
    (h : Run (installedStep V detectMultiScale) (.stopped file) es s)
    (hids : ∀ row ∈ (initDb file).rows, row.userId < 2 ^ 31) :
    s.rows.Sublist (initDb file).rows ∧
      (∀ id message, Seen.shown (.answered (.faceRecognized id) message) ∈
          seenFrom V detectMultiScale file es →
        ∃ row ∈ (initDb file).rows, row.userId = id ∧ message = greeting row.nickName) ∧
      ∀ result, Seen.replied (.ok result) ∈ seenFrom V detectMultiScale file es →
        Consistent ((initDb file).rows.map UserRow.toUser) result := by
  have hinv := installedInvariant_run h hids
  refine ⟨hinv.rows, hinv.shown, ?_⟩
  rw [← (initDb file).map_cached hids]
  exact hinv.replied

/-- Ann is recognised, but the program ends before the window greets her; recognised again in the
next session, she is greeted and deleted; in the third nobody is known. -/
def threeStarts : List (InstalledEvent Nat) :=
  [.start true, .program (.toggle true), .program (.onFrameCaptured 2), .program .workerIteration,
    .exit, .start true, .program (.rpcRecognizeFace { faceImg := [2] }), .program .deliver,
    .program (.deleteSelected [(0, 1)]), .exit, .start true,
    .program (.rpcRecognizeFace { faceImg := [2] })]

theorem known_from_the_file_ann :
    let detect : Nat → List Rect := fun frame => if frame = 2 then [{}] else []
    ∃ s, Run (installedStep sampleVision detect) (.stopped (some oneRow)) threeStarts s ∧
      s.rows = [] ∧
      seenFrom sampleVision detect (some oneRow) threeStarts =
        [.replied (.ok { id := 1, name := "Ann" }),
          .shown (.answered (.faceRecognized 1) (greeting "Ann")),
          .replied (.ok { id := -1 })] ∧
      s.rows.Sublist (initDb (some oneRow)).rows := by
  intro detect
  have hcomputed : (exec (installedStep sampleVision detect) (.stopped (some oneRow))
      threeStarts).map (fun s => s.rows) = some [] := by decide +kernel
  obtain ⟨s, hs, hrows⟩ := Option.map_eq_some_iff.1 hcomputed
  have hrun := run_iff_exec.2 hs
  exact ⟨s, hrun, hrows, by decide +kernel, (known_from_the_file hrun (by decide)).1⟩

variable {V detectMultiScale} in
/-- **Nobody is known to a new installation.** Over any sessions of a program whose first start
created the file, whatever is clicked, captured, registered or asked for by clients: the table has no
row, the window greets nobody, and every OK reply of `RecognizeFace` gives `-1` and no name. -/
theorem nobody_known {es : List (InstalledEvent Mat)} {s : InstalledProgram V}
    (h : Run (installedStep V detectMultiScale) (.stopped none) es s) :
    s.rows = [] ∧
      (∀ id message, Seen.shown (.answered (.faceRecognized id) message) ∉
        seenFrom V detectMultiScale none es) ∧
      ∀ result, Seen.replied (.ok result) ∈ seenFrom V detectMultiScale none es →
        result.id = -1 ∧ result.name = "" := by
  have hinv := installedInvariant_run h fun row hrow => absurd hrow List.not_mem_nil
  refine ⟨List.sublist_nil.1 hinv.rows, ?_, ?_⟩
  · intro id message hmem
    obtain ⟨row, hrow, -⟩ := hinv.shown id message hmem
    exact absurd hrow List.not_mem_nil
  · intro result hmem
    rcases hinv.replied result hmem with hnobody | ⟨u, hu, -⟩
    · exact hnobody
    · exact absurd hu List.not_mem_nil

/-- Ann registers at the page and by a client, and is recognised by neither session. -/
def registeredInVain : List (InstalledEvent Nat) :=
  [.start true, .program (.click "Ann" "ann@home"), .program (.onFrameCaptured 2),
    .program .registerIteration, .program (.rpcRegister { faceImg := [2] } (some 0)),
    .program (.rpcRecognizeFace { faceImg := [2] }), .exit, .start true,
    .program (.rpcRecognizeFace { faceImg := [2] })]

theorem nobody_known_registered :
    let detect : Nat → List Rect := fun frame => if frame = 2 then [{}] else []
    ∃ s, Run (installedStep sampleVision detect) (.stopped none) registeredInVain s ∧
      seenFrom sampleVision detect none registeredInVain =
        [.shown (.clicked (clickMessage "Ann" "ann@home")), .replied (.ok { id := -1 }),
          .replied (.ok { id := -1 })] ∧
      s.rows = [] := by
  intro detect
  have hcomputed : (exec (installedStep sampleVision detect) (.stopped none)
      registeredInVain).isSome = true := by decide +kernel
  obtain ⟨s, hs⟩ := Option.isSome_iff_exists.1 hcomputed
  have hrun := run_iff_exec.2 hs
  exact ⟨s, hrun, by decide +kernel, (nobody_known hrun).1⟩

end ArmFaceID.Server
