import ArmFaceID.Client.RpcClient
import ArmFaceID.Server.Engine
import ArmFaceID.Server.TableViewPage
import ArmFaceID.Library.Machine

/-!
# The RPC handlers and the server as a whole

`server/rpc_manager.cpp`, and the operations on the two stores as steps of one machine: SeetaFace's
database, written by the `Register` handler, and the user table with its cache, written by
`RegisterFace(frame, user)`, `LoadToCache` and the table page. Operations run one after another.
-/

set_option autoImplicit false

namespace ArmFaceID.Server

variable {Mat QImage : Type} (V : Vision Mat QImage) (observers : List Observer)

/-- What a handler leaves behind for the client and for the observers, and the images it has run the
engine on. -/
structure Served (Mat Message : Type) where
  handled : Handled Message
  calls : List (Notification Mat Int) := []
  engineImages : List Mat := []

/-- `RpcManagerImpl::RecognizeFace`. -/
def rpcRecognizeFace (users : List User) (request : RecognizeRequest) :
    Served Mat RecognizeResult :=
  match V.bytesToMat request.faceImg V.noMat with
  | .error _ => { handled := ⟨.unknown, {}⟩ }
  | .ok decodedMat =>
      match recognizeFaceFromDb V observers users decodedMat with
      | .error _ => { handled := ⟨.unknown, {}⟩, engineImages := [decodedMat] }
      | .ok found =>
          -- nobody recognised: the default user, whose name is empty
          let userInfo := found.info.getD {}
          { handled := ⟨.ok, { id := found.id, name := userInfo.nickName }⟩
            calls := found.calls
            engineImages := [decodedMat] }

/-- The end of `RpcManagerImpl::Register`: nothing is written into the response. -/
def registerReply (id : Int) : Handled RegisterResult :=
  -- `kFaceAlreadyExisted` is not told apart from an index
  if id = -1 then ⟨.outOfRange "face not found.", {}⟩ else ⟨.ok, {}⟩

/-- `RpcManagerImpl::Register`. -/
def rpcRegister (gallery : V.Gallery) (answer : Option Nat) (request : RegisterRequest) :
    Served Mat RegisterResult × V.Gallery :=
  match V.bytesToMat request.faceImg V.noMat with
  | .error _ => ({ handled := ⟨.unknown, {}⟩ }, gallery)
  | .ok decodedMat =>
      let result := registerFace V observers gallery answer decodedMat
      (⟨registerReply result.id, result.calls, [decodedMat]⟩, result.store)

/-! ## The server -/

/-- SeetaFace's database, the user table with its cache, and the rows the table page shows. -/
structure ServerState where
  gallery : V.Gallery := []
  db : FaceDataBase := {}
  tableModel : TableModel := []

/-- The server after start-up on a table: the cache is loaded and the page has selected. -/
def ServerState.started (table : TbUser) : ServerState V where
  db := ({ tbUser := table } : FaceDataBase).loadToCache true
  tableModel := select table

/-- An operation on the server, with the outcomes of its SQL statements and of
`FaceDatabase::Register`. -/
inductive ServerEvent (Mat : Type) where
  | registerUser (frame : Mat) (user : User) (exec : Option Int) (select : Bool)
  | loadToCache (exec : Bool)
  | refresh
  | deleteSelected (selectedIndexes : List (Nat × Nat))
  | recognizeFaceFromDb (img : Mat)
  | rpcRegister (request : RegisterRequest) (answer : Option Nat)
  | rpcRecognizeFace (request : RecognizeRequest)

/-- The outcome of an `INSERT`, if the id it names is one the table can hand out. -/
def freshExec (t : TbUser) : Option Int → Option (Option { id : Int // t.Fresh id })
  | none => some none
  | some id => if h : t.Fresh id then some (some ⟨id, h⟩) else none

/-- The indexes `FaceDatabase::Register` may answer with. -/
def FreshIndex (gallery : V.Gallery) (answer : Option Nat) : Prop :=
  ∀ e ∈ gallery, answer ≠ some e.index

instance (gallery : V.Gallery) (answer : Option Nat) : Decidable (FreshIndex V gallery answer) :=
  inferInstanceAs (Decidable (∀ e ∈ gallery, answer ≠ some e.index))

/-- One operation. An exception leaves the stores as they were. -/
def serverStep (s : ServerState V) : ServerEvent Mat → Option (ServerState V)
  | .registerUser frame user exec select =>
      (freshExec s.db.tbUser exec).map fun exec =>
        match registerUser V observers s.db exec select frame user with
        | .ok result => { s with db := result.store }
        | .error _ => s
  | .loadToCache exec => some { s with db := s.db.loadToCache exec }
  | .refresh => some { s with tableModel := select s.db.tbUser }
  | .deleteSelected selectedIndexes =>
      let (tableModel, table) := deleteSelected selectedIndexes (s.tableModel, s.db.tbUser)
      some { s with db := { s.db with tbUser := table }, tableModel := tableModel }
  | .recognizeFaceFromDb _ => some s
  | .rpcRegister request answer =>
      if FreshIndex V s.gallery answer then
        some { s with gallery := (rpcRegister V observers s.gallery answer request).2 }
      else none
  | .rpcRecognizeFace _ => some s

variable {V observers} in
/-- `Register` reaches neither the database nor the page. -/
theorem serverStep_rpcRegister {s t : ServerState V} {request : RegisterRequest}
    {answer : Option Nat} (ht : serverStep V observers s (.rpcRegister request answer) = some t) :
    FreshIndex V s.gallery answer ∧
      t = { s with gallery := (rpcRegister V observers s.gallery answer request).2 } := by
  rw [serverStep] at ht
  split at ht
  · next hfresh =>
      cases ht
      exact ⟨hfresh, rfl⟩
  · cases ht

end ArmFaceID.Server
