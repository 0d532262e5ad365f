import ArmFaceID.Library.Machine
import ArmFaceID.Library.NameRegistry

/-!
# Database connections and their names

A `DBConnection` registers its connection with Qt under the id of the thread that constructs it, and
its destructor leaves the name registered. A page keeps a `DBConnection` for its life, an operation
of `FaceDataBase` keeps one while it runs. A connection is pulled away exactly when a `DBConnection`
is constructed on a thread on which another live one was made (`connections_owned_iff`). What goes
over a connection is left out.
-/

set_option autoImplicit false

namespace ArmFaceID.Server

open ArmFaceID.Library

/-- A connection's name: Qt's default, or the id of a thread as a numeral. -/
inductive ConnectionName where
  | defaultConnection
  | ofThread (currentThreadId : Nat)
  deriving DecidableEq

/-- The functions with a local `DBConnection`. -/
inductive DbCall where
  | initDb
  | addUser
  | getUserById
  | loadToCache
  deriving DecidableEq

/-- What keeps a `DBConnection`: a `TableViewPage`, or the call under way on a thread. -/
inductive Keeper where
  | tableViewPage (page : Nat)
  | call (thread : Nat)
  deriving DecidableEq

/-- The connections registered with Qt, and the live `DBConnection`s. -/
abbrev Connections := Objects Keeper ConnectionName

/-- `DBConnection::DBConnection` on a thread: `addDatabase` under the thread's id. -/
def dbConnection (s : Connections) (keeper : Keeper) (thread : Nat) : Connections :=
  s.construct keeper (.ofThread thread)

/-- What a call does before it makes its `DBConnection`: `InitDb` adds the default connection. -/
def DbCall.prepare (s : Connections) : DbCall → Connections
  | .initDb => s.addName .defaultConnection
  | _ => s

inductive ConnectionEvent where
  | openPage (page thread : Nat)
  | closePage (page : Nat)
  | callBegins (thread : Nat) (call : DbCall)
  | callReturns (thread : Nat)

/-- One step. None of the calls makes another one. -/
def connectionStep (s : Connections) : ConnectionEvent → Option Connections
  | .openPage page thread =>
      match s.held (.tableViewPage page) with
      | none => some (dbConnection s (.tableViewPage page) thread)
      | some _ => none
  | .closePage page =>
      match s.held (.tableViewPage page) with
      | none => none
      | some _ => some (s.destroy (.tableViewPage page))
  | .callBegins thread call =>
      match s.held (.call thread) with
      | none => some (dbConnection (call.prepare s) (.call thread) thread)
      | some _ => none
  | .callReturns thread =>
      match s.held (.call thread) with
      | none => none
      | some _ => some (s.destroy (.call thread))

/-- A `DBConnection` is constructed on a thread only when no live one was made there. -/
def OnlyOneOnThread (s : Connections) : ConnectionEvent → Prop
  | .openPage _ thread => s.NameFree (.ofThread thread)
  | .callBegins thread _ => s.NameFree (.ofThread thread)
  | _ => True

/-- Every live `DBConnection` owns its connection, and none has Qt's default name. -/
structure ConnectionInvariant (s : Connections) : Prop where
  valid : s.Valid
  defaultFree : s.NameFree .defaultConnection

section Step

variable {s t : Connections} {e : ConnectionEvent} {keeper : Keeper} {thread : Nat}

theorem ConnectionInvariant.dbConnection (hinv : ConnectionInvariant s)
    (hfree : s.NameFree (.ofThread thread)) :
    ConnectionInvariant (dbConnection s keeper thread) where
  valid := hinv.valid.construct hfree
  defaultFree := hinv.defaultFree.construct (fun h => nomatch h)

theorem ConnectionInvariant.destroy (hinv : ConnectionInvariant s) :
    ConnectionInvariant (s.destroy keeper) where
  valid := hinv.valid.destroy
  defaultFree := hinv.defaultFree.destroy

@[simp] theorem prepare_held (s : Connections) (call : DbCall) :
    (call.prepare s).held = s.held := by
  cases call <;> rfl

theorem nameFree_prepare {call : DbCall} {name : ConnectionName} :
    (call.prepare s).NameFree name ↔ s.NameFree name := by
  rw [Objects.NameFree, Objects.NameFree, prepare_held]

theorem ConnectionInvariant.prepare (hinv : ConnectionInvariant s) (call : DbCall) :
    ConnectionInvariant (call.prepare s) where
  valid := by
    cases call with
    -- the default name belongs to no `DBConnection`
    | initDb => exact hinv.valid.addName hinv.defaultFree
    | addUser => exact hinv.valid
    | getUserById => exact hinv.valid
    | loadToCache => exact hinv.valid
  defaultFree := nameFree_prepare.2 hinv.defaultFree

theorem openPage_eq {page : Nat} (ht : connectionStep s (.openPage page thread) = some t) :
    s.held (.tableViewPage page) = none ∧
      t = dbConnection s (.tableViewPage page) thread := by
  simp only [connectionStep] at ht
  split at ht
  · next hkey =>
      cases ht
      exact ⟨hkey, rfl⟩
  · cases ht

theorem callBegins_eq {call : DbCall}
    (ht : connectionStep s (.callBegins thread call) = some t) :
    s.held (.call thread) = none ∧
      t = dbConnection (call.prepare s) (.call thread) thread := by
  simp only [connectionStep] at ht
  split at ht
  · next hkey =>
      cases ht
      exact ⟨hkey, rfl⟩
  · cases ht

theorem connectionInvariant_step (hinv : ConnectionInvariant s) (hone : OnlyOneOnThread s e)
    (ht : connectionStep s e = some t) : ConnectionInvariant t := by
  cases e with
  | openPage page thread =>
      obtain ⟨-, rfl⟩ := openPage_eq ht
      exact hinv.dbConnection hone
  | closePage page =>
      simp only [connectionStep] at ht
      split at ht
      · cases ht
      · cases ht
        exact hinv.destroy
  | callBegins thread call =>
      obtain ⟨-, rfl⟩ := callBegins_eq ht
      exact (hinv.prepare call).dbConnection (nameFree_prepare.2 hone)
  | callReturns thread =>
      simp only [connectionStep] at ht
      split at ht
      · cases ht
      · cases ht
        exact hinv.destroy

/-- A second `DBConnection` on a thread pulls the connection away from the first. -/
theorem not_valid_of_second (hinv : ConnectionInvariant s) (hone : ¬ OnlyOneOnThread s e)
    (ht : connectionStep s e = some t) : ¬ t.Valid := by
  cases e with
  | openPage page thread =>
      obtain ⟨hkey, rfl⟩ := openPage_eq ht
      exact Objects.not_valid_construct hinv.valid hkey hone
  | closePage page => exact absurd trivial hone
  | callBegins thread call =>
      obtain ⟨hkey, rfl⟩ := callBegins_eq ht
      -- what `InitDb` adds first changes no `DBConnection`
      apply Objects.not_valid_construct (hinv.prepare call).valid
      · rw [prepare_held]
        exact hkey
      · exact fun hfree => hone (nameFree_prepare.1 hfree)
  | callReturns thread => exact absurd trivial hone

end Step

/-- **Connections stay owned.** In a run of pages and calls on any threads every live `DBConnection`
always owns the connection registered under its name if and only if none is ever constructed on a
thread on which another live one was made. -/
theorem connections_owned_iff {es : List ConnectionEvent} {s : Connections}
    (h : Run connectionStep {} es s) :
    Always connectionStep Objects.Valid {} es ↔
      GuardedRun connectionStep OnlyOneOnThread {} es s := by
  apply h.always_iff_guarded (I := ConnectionInvariant)
  · exact ⟨(fun _ _ h => nomatch h), (fun _ _ h => nomatch h)⟩
  · intro s hs
    exact hs.valid
  · intro s e t hs hone ht
    exact connectionInvariant_step hs hone ht
  · intro s e t hs hone ht
    exact not_valid_of_second hs hone ht

/-- A page on one thread and two calls, one after the other, on a second thread. -/
def twoThreads : List ConnectionEvent :=
  [.callBegins 2 .initDb, .callReturns 2, .openPage 0 1, .callBegins 2 .loadToCache]

theorem connections_owned_apart :
    ∃ s, Run connectionStep {} twoThreads s ∧
      Always connectionStep Objects.Valid {} twoThreads := by
  have hrun : GuardedRun connectionStep OnlyOneOnThread {} twoThreads _ :=
    .snoc (.snoc (.snoc (.snoc .nil (fun _ _ h => nomatch h) rfl) trivial rfl)
      (by
        intro keeper handle hheld
        rcases Objects.held_construct (Objects.held_destroy hheld) with rfl | hold
        · exact fun h => nomatch h
        · cases hold) rfl)
      (by
        intro keeper handle hheld
        cases keeper with
        | tableViewPage page =>
            cases page with
            | zero =>
                cases hheld
                exact fun h => nomatch h
            | succ page => cases hheld
        | call thread => rcases thread with _ | _ | _ | thread <;> cases hheld) rfl
  exact ⟨_, hrun.run, (connections_owned_iff hrun.run).2 hrun⟩

/-- `LoadToCache` on the thread that opened the table page takes the page's connection away. -/
theorem page_connection_lost :
    ∃ s, Run connectionStep {} [.openPage 0 1, .callBegins 1 .loadToCache] s ∧
      s.held (.tableViewPage 0) = some ⟨.ofThread 1, 0⟩ ∧
      s.registry.registered (.ofThread 1) = some 1 ∧ ¬ s.Valid := by
  refine ⟨_, .snoc (.snoc .nil rfl) rfl, rfl, rfl, ?_⟩
  intro hvalid
  cases hvalid (.tableViewPage 0) ⟨.ofThread 1, 0⟩ rfl

end ArmFaceID.Server
