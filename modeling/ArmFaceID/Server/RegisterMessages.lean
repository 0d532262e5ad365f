import ArmFaceID.Server.Greeting

/-!
# What the window says about registrations

Every registration attempt that is reported, the page's and the handlers', ends as a message in the
window. The messages can be read as a record of what was stored: those of success are, in their
order, the entries of SeetaFace's database, each stored by a `Register` handler. A registration of
the page stores features only, and is announced as a face that exists already, one for each
(`registration_messages`). Handlers run one after another here: each stores and announces in one step,
and so does the register thread. With handlers side by side one may announce before another that
stored first.
-/

set_option autoImplicit false

namespace ArmFaceID.Server

open ArmFaceID.Library

variable {Mat QImage : Type} (V : Vision Mat QImage)

/-! ## Messages -/

/-- The message of the handler of a click. -/
def clickMessage (nickName email : String) : BarMessage :=
  if nickName = "" then ⟨.information, "注册", "昵称不能为空"⟩
  else if email = "" then ⟨.information, "注册", "邮箱不能为空"⟩
  else ⟨.information, "注册", "注册中，稍后~"⟩

/-- A message in the window: after a click, or for a signal. -/
inductive PageMessage where
  | clicked (message : BarMessage)
  | answered (signal : FaceRegistered) (message : BarMessage)
  deriving DecidableEq

/-- The messages of a step. -/
def pageMessages (s : RegisterPage V) : PageEvent Mat → List PageMessage
  | .click nickName email => [.clicked (clickMessage nickName email)]
  | .onFrameCaptured _ => []
  | .takeFrame => []
  | .registerFeature => []
  | .rpcRegister _ _ => []
  | .deliver =>
      match s.signals with
      | [] => []
      | signal :: _ => [.answered signal (faceRegisteredMessage signal.id)]

/-- The signals answered, each with its message. -/
def answeredIn (out : List PageMessage) : List (FaceRegistered × BarMessage) :=
  out.filterMap fun
    | .clicked _ => none
    | .answered signal message => some (signal, message)

/-- The signals answered and those on their way, each with the message it gets. -/
def announcements (out : List PageMessage) (s : RegisterPage V) :
    List (FaceRegistered × BarMessage) :=
  answeredIn out ++ s.signals.map fun signal => (signal, faceRegisteredMessage signal.id)

/-- The announcements of success. -/
def successes (announced : List (FaceRegistered × BarMessage)) : List (FaceRegistered × BarMessage) :=
  announced.filter fun a => a.2.kind = .success

/-- The announcements of registrations of one origin. -/
def announcedBy (origin : Origin) (announced : List (FaceRegistered × BarMessage)) :
    List (FaceRegistered × BarMessage) :=
  announced.filter fun a => a.1.origin = origin

/-- The announcement of a face that exists already. -/
def existsAlready : FaceRegistered × BarMessage :=
  (⟨.page, kFaceAlreadyExisted⟩, faceRegisteredMessage kFaceAlreadyExisted)

/-- The announcement of an entry stored by a handler. -/
def storedByHandler {M : SeetaModels Mat} (e : Entry M) : FaceRegistered × BarMessage :=
  (⟨.rpc, e.index⟩, faceRegisteredMessage e.index)

/-! ## The signals of a registration -/

section Emitted

variable {V}

@[simp] theorem emitted_reportRegistered (origin : Origin) (frame : Mat) (code : Int) :
    emitted origin (reportRegistered [elaGui] frame code) = [⟨origin, code⟩] := rfl

/-- An index is announced as a success. -/
theorem success_of_index (index : Nat) : (faceRegisteredMessage index).kind = .success := by
  have hnot : (index : Int) ≠ kFaceNotDetected := by
    show (index : Int) ≠ -1
    omega
  have hexists : (index : Int) ≠ kFaceAlreadyExisted := by
    show (index : Int) ≠ -2
    omega
  rw [faceRegisteredMessage, if_neg hnot, if_neg hexists]

variable (V) in
/-- The register thread stores features and reports a face that exists already, or does nothing. -/
theorem registerFeature_emits (features : FeatureStore) (frame : Mat) :
    (emitted .page (registerFeature V [elaGui] features frame).calls = [] ∧
        (registerFeature V [elaGui] features frame).store = features) ∨
      emitted .page (registerFeature V [elaGui] features frame).calls =
          [⟨.page, kFaceAlreadyExisted⟩] ∧
        (registerFeature V [elaGui] features frame).store.featuresVec.length =
          features.featuresVec.length + 1 := by
  unfold registerFeature
  cases V.detectFaces frame with
  | nil => exact Or.inl ⟨rfl, rfl⟩
  | cons face rest => exact Or.inr ⟨rfl, List.length_append⟩

theorem origin_of_emitted {origin : Origin} {calls : List (Notification Mat Int)}
    {signal : FaceRegistered} (h : signal ∈ emitted origin calls) : signal.origin = origin := by
  obtain ⟨n, -, hn⟩ := List.mem_filterMap.1 h
  split at hn
  · split at hn
    · cases hn
      rfl
    · cases hn
  · cases hn

/-- A handler stores nothing and reports no success, or stores an entry and reports its index. -/
theorem rpcRegister_emits (gallery : V.Gallery) (request : RegisterRequest) (answer : Option Nat) :
    ((∀ signal ∈ emitted .rpc (rpcRegister V [elaGui] gallery answer request).1.calls,
          (faceRegisteredMessage signal.id).kind ≠ .success) ∧
        (rpcRegister V [elaGui] gallery answer request).2 = gallery) ∨
      ∃ e : Entry V.toSeetaModels,
        emitted .rpc (rpcRegister V [elaGui] gallery answer request).1.calls = [⟨.rpc, e.index⟩] ∧
          (rpcRegister V [elaGui] gallery answer request).2 = gallery ++ [e] := by
  cases hmat : V.bytesToMat request.faceImg V.noMat with
  | error err =>
      simp only [rpcRegister, hmat]
      exact Or.inl ⟨fun signal hsignal => absurd hsignal List.not_mem_nil, trivial⟩
  | ok decodedMat =>
      simp only [rpcRegister, hmat]
      rcases registerFace_cases V [elaGui] gallery answer decodedMat with
        ⟨-, hr⟩ | ⟨-, -, hr⟩ | ⟨e, -, -, -, -, hr⟩
      · rw [hr, emitted_reportRegistered]
        refine Or.inl ⟨?_, rfl⟩
        intro signal hsignal
        rw [List.mem_singleton.1 hsignal]
        decide
      · rw [hr, emitted_reportRegistered]
        refine Or.inl ⟨?_, rfl⟩
        intro signal hsignal
        rw [List.mem_singleton.1 hsignal]
        decide
      · rw [hr, emitted_reportRegistered]
        exact Or.inr ⟨e, rfl, rfl⟩

end Emitted

/-! ## The invariant -/

/-- What the announcements so far have to do with what is stored. -/
structure MessageInvariant (out : List PageMessage) (s : RegisterPage V) : Prop where
  stored : successes (announcements V out s) = s.gallery.map storedByHandler
  features : announcedBy .page (announcements V out s) =
    List.replicate s.features.featuresVec.length existsAlready

section Invariant

variable {V} {out : List PageMessage} {s t : RegisterPage V} {e : PageEvent Mat}

theorem messageInvariant_init : MessageInvariant V [] ({} : RegisterPage V) := ⟨rfl, rfl⟩

/-- A step that emits signals adds their announcements. -/
theorem announcements_emit {signals : List FaceRegistered} (h : t.signals = s.signals ++ signals) :
    announcements V out t = announcements V out s ++
      signals.map fun signal => (signal, faceRegisteredMessage signal.id) := by
  rw [announcements, announcements, h, List.map_append, List.append_assoc]

/-- A click announces nothing. -/
theorem announcements_clicked (message : BarMessage) (h : t.signals = s.signals) :
    announcements V (out ++ [.clicked message]) t = announcements V out s := by
  simp only [announcements, answeredIn, h, List.filterMap_append, List.filterMap_cons_none,
    List.filterMap_nil, List.append_nil]

/-- A signal delivered was announced before. -/
theorem announcements_answered {signal : FaceRegistered} {rest : List FaceRegistered}
    (hs : s.signals = signal :: rest) (ht : t.signals = rest) :
    announcements V (out ++ [.answered signal (faceRegisteredMessage signal.id)]) t =
      announcements V out s := by
  simp [announcements, answeredIn, hs, ht]

/-- A step that stores nothing and announces nothing new. -/
theorem MessageInvariant.of_eq {out' : List PageMessage} (hinv : MessageInvariant V out s)
    (hsame : announcements V out' t = announcements V out s) (hgallery : t.gallery = s.gallery)
    (hfeatures : t.features = s.features) : MessageInvariant V out' t := by
  refine ⟨?_, ?_⟩
  · rw [hsame, hgallery]
    exact hinv.stored
  · rw [hsame, hfeatures]
    exact hinv.features

/-- The end of an attempt of the page is announced if features were stored. -/
theorem messageInvariant_registerFeature (hinv : MessageInvariant V out s)
    (ht : pageStep V s .registerFeature = some t) : MessageInvariant V out t := by
  obtain ⟨frame, hsignals, hgallery, hfeatures⟩ : ∃ frame, t.signals = s.signals ++
      emitted .page (registerFeature V [elaGui] s.features frame).calls ∧ t.gallery = s.gallery ∧
      t.features = (registerFeature V [elaGui] s.features frame).store := by
    simp only [pageStep] at ht
    split at ht
    · cases ht
    · next frame hattempt =>
        cases ht
        exact ⟨frame, rfl, rfl, rfl⟩
  have hannounced : announcements V out t = _ := announcements_emit hsignals
  rcases registerFeature_emits V s.features frame with ⟨hnone, hstore⟩ | ⟨hone, hstore⟩
  · rw [hnone, List.map_nil, List.append_nil] at hannounced
    exact hinv.of_eq hannounced hgallery (hfeatures.trans hstore)
  · rw [hone] at hannounced
    refine ⟨?_, ?_⟩
    · rw [hannounced, hgallery, successes, List.filter_append, ← successes, hinv.stored]
      exact List.append_nil _
    · rw [hannounced, hfeatures, hstore, announcedBy, List.filter_append, ← announcedBy,
        hinv.features, List.replicate_succ']
      rfl

/-- A handler announces a success if it stores an entry. -/
theorem messageInvariant_rpcRegister {request : RegisterRequest} {answer : Option Nat}
    (hinv : MessageInvariant V out s) (ht : pageStep V s (.rpcRegister request answer) = some t) :
    MessageInvariant V out t := by
  have hsignals : t.signals = s.signals ++
      emitted .rpc (rpcRegister V [elaGui] s.gallery answer request).1.calls := by
    cases ht
    rfl
  have hgallery : t.gallery = (rpcRegister V [elaGui] s.gallery answer request).2 := by
    cases ht
    rfl
  have hfeatures : t.features = s.features := by
    cases ht
    rfl
  refine ⟨?_, ?_⟩
  · rw [announcements_emit hsignals, hgallery, successes, List.filter_append, ← successes, hinv.stored]
    rcases rpcRegister_emits s.gallery request answer with ⟨hfailed, hsame⟩ | ⟨e, hone, hmore⟩
    · rw [hsame, List.filter_eq_nil_iff.2, List.append_nil]
      intro a ha
      obtain ⟨signal, hsignal, rfl⟩ := List.mem_map.1 ha
      exact fun hsuccess => hfailed signal hsignal (of_decide_eq_true hsuccess)
    · rw [hone, hmore, List.map_append, List.map_singleton, List.filter_cons_of_pos]
      · rfl
      · exact decide_eq_true (success_of_index e.index)
  · rw [announcements_emit hsignals, hfeatures, announcedBy, List.filter_append, ← announcedBy,
      hinv.features, List.filter_eq_nil_iff.2, List.append_nil]
    intro a ha
    obtain ⟨signal, hsignal, rfl⟩ := List.mem_map.1 ha
    rw [origin_of_emitted hsignal]
    decide

theorem messageInvariant_step (hinv : MessageInvariant V out s) (ht : pageStep V s e = some t) :
    MessageInvariant V (out ++ pageMessages V s e) t := by
  cases e with
  | click nickName email =>
      simp only [pageStep] at ht
      split at ht
      · split at ht
        · cases ht
          exact hinv.of_eq (announcements_clicked _ rfl) rfl rfl
        · cases ht
          exact hinv.of_eq (announcements_clicked _ rfl) rfl rfl
      · cases ht
  | onFrameCaptured frame =>
      cases ht
      rw [pageMessages, List.append_nil]
      exact hinv.of_eq rfl rfl rfl
  | takeFrame =>
      rw [pageMessages, List.append_nil]
      simp only [pageStep] at ht
      split at ht
      · cases ht
      · split at ht
        · cases ht
          exact hinv
        · cases ht
          exact hinv.of_eq rfl rfl rfl
  | registerFeature =>
      rw [pageMessages, List.append_nil]
      exact messageInvariant_registerFeature hinv ht
  | rpcRegister request answer =>
      rw [pageMessages, List.append_nil]
      exact messageInvariant_rpcRegister hinv ht
  | deliver =>
      simp only [pageStep] at ht
      split at ht
      · cases ht
      · next signal rest hsignals =>
          cases ht
          simp only [pageMessages, hsignals]
          exact hinv.of_eq (announcements_answered hsignals rfl) rfl rfl

end Invariant

/-- Two registrations of the page, the second refused by an empty field first, and one of a handler
in between. -/
def registeredTwice : List (PageEvent Nat) :=
  [.click "Ann" "ann@home", .onFrameCaptured 2, .takeFrame, .registerFeature,
    .rpcRegister { faceImg := [3] } (some 0), .deliver, .click "Bob" "", .click "Bob" "bob@home",
    .onFrameCaptured 3, .takeFrame, .registerFeature, .deliver]

end ArmFaceID.Server
