import ArmFaceID.Interface

/-!
# The client's RPC calls

`client/rpc_client.cpp`: the requests sent and the values returned. A stub call ends with the
server's message or fails; after a failure the message is as it was default-constructed.
-/

set_option autoImplicit false

namespace ArmFaceID.Client

universe u

variable {Frame : Type u}

/-- `utils::mat_to_bytes`; `imencode` is `cv::imencode`. -/
def matToBytes (imencode : String → Frame → Bytes) (mat : Frame) (ext : String) : Bytes :=
  imencode ext mat

/-- The request `RpcClient::RecognizeFace` sends. -/
def recognizeRequest (imencode : String → Frame → Bytes) (faceImg : Frame) : RecognizeRequest :=
  { faceImg := matToBytes imencode faceImg ".jpg" }

/-- The value `RpcClient::RecognizeFace` returns. -/
def recognizeFace (reply : RpcReply RecognizeResult) : RecognizeResult :=
  match reply with
  | .ok result => result
  | .error _ => {}

/-- The request `RpcClient::Register` sends: the name is not put into it. -/
def registerRequest (imencode : String → Frame → Bytes) (image : Frame) (_name : String) :
    RegisterRequest :=
  { faceImg := matToBytes imencode image ".jpg" }

/-- The value `RpcClient::Register` returns. -/
def register (reply : RpcReply RegisterResult) : Int :=
  match reply with
  | .ok result => result.id
  | .error _ => ({} : RegisterResult).id

end ArmFaceID.Client
