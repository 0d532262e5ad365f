import Mathlib.Algebra.Group.Int.Defs
import Mathlib.Algebra.Group.Nat.Defs
import Mathlib.Data.List.Basic

/-!
# Observers and messages shared by the client and the server

`utils/interface.h` and `proto/face_network.proto`. An observer is known by the identity of its
shared pointer. A notification records which observer was called and with what.
-/

set_option autoImplicit false

namespace ArmFaceID

universe u v

/-- `cv::Rect`; the default is `cv::Rect()`. -/
structure Rect where
  x : Int := 0
  y : Int := 0
  width : Int := 0
  height : Int := 0
  deriving DecidableEq

/-- `FaceDetectorObserver::kFaceNotDetected`. -/
def kFaceNotDetected : Int := -1

/-- `FaceDetectorObserver::kFaceAlreadyExisted`. -/
def kFaceAlreadyExisted : Int := -2

/-- A call on a `FaceDetectorObserver<MsgType>`. -/
inductive Callback (Frame : Type u) (Msg : Type v) where
  | onFaceDetected (img : Frame) (faces : List Rect)
  | onFaceRecognized (img : Frame) (face : Rect) (id : Msg)
  | onFaceRegistered (img : Frame) (face : Rect) (id : Msg)
  deriving DecidableEq

/-- Identity of an observer's shared pointer. -/
abbrev Observer := Nat

/-- One call on one observer. -/
abbrev Notification (Frame : Type u) (Msg : Type v) := Observer × Callback Frame Msg

/-- The loop `for (auto iter : observers_) iter->...`. -/
def notifyAll {Frame : Type u} {Msg : Type v} (observers : List Observer)
    (call : Callback Frame Msg) : List (Notification Frame Msg) :=
  observers.map fun iter => (iter, call)

/-- Conversion of an integer of another type to `int`, of 32 bits. -/
def toInt32 (n : Int) : Int := n.bmod (2 ^ 32)

theorem toInt32_of_lt {n : Int} (hneg : 0 ≤ n) (hlt : n < 2 ^ 31) : toInt32 n = n :=
  Int.bmod_eq_of_le (by omega) (by omega)

theorem toInt32_lt (n : Int) : toInt32 n < 2 ^ 31 := Int.bmod_lt (by decide)

/-! ## Messages -/

/-- A `bytes` field. -/
abbrev Bytes := List UInt8

structure RegisterRequest where
  faceImg : Bytes := []
  name : String := ""
  id : Int := 0
  deriving DecidableEq

structure RegisterResult where
  faceImg : Bytes := []
  name : String := ""
  id : Int := 0
  lastRecognizedDate : String := ""
  deriving DecidableEq

structure RecognizeRequest where
  faceImg : Bytes := []
  deriving DecidableEq

structure RecognizeResult where
  faceImg : Bytes := []
  name : String := ""
  id : Int := 0
  lastRecognizedDate : String := ""
  email : String := ""
  deriving DecidableEq

/-- `grpc::Status`. gRPC answers an exception that escapes a handler with `unknown`. -/
inductive Status where
  | ok
  | outOfRange (message : String)
  | unknown
  deriving DecidableEq

/-- How a stub call ends for the client: a message with an OK status, or the failure's text. -/
abbrev RpcReply (Message : Type) := Except String Message

/-- What a handler leaves behind: a status and the response message. -/
structure Handled (Message : Type) where
  status : Status
  response : Message
  deriving DecidableEq

/-- The end of the call as the client sees it. -/
def Handled.reply {Message : Type} (h : Handled Message) : RpcReply Message :=
  match h.status with
  | .ok => .ok h.response
  | .outOfRange message => .error message
  | .unknown => .error ""

end ArmFaceID
