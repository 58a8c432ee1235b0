import FaceVec.Faces.Enrollment
import FaceVec.Ranking

/-!
The AI inference service, `routers/embeddings.py` and `face_engine.py`, and the
gateway's side of it, `ai.client.ts` behind the circuit breaker of
`ai.breaker.ts`. OpenCV and InsightFace are a parameter. Numbers are those of
any linear order with a subtraction and a product, whatever their rounding.
-/

namespace FaceVec.Ai

open Faces

structure Settings where
  insightface_model_name : String := "buffalo_l"
  embedding_dimensions : Nat := 512
  max_image_bytes : Nat := 10 * 1024 * 1024

/-- A face of InsightFace, with the corners of its bounding box. -/
structure Detection (K : Type) where
  normed_embedding : List K
  x1 : K
  y1 : K
  x2 : K
  y2 : K
  det_score : K

structure DetectedFace (K : Type) where
  embedding : List K
  bbox : List K
  det_score : K
  area : K

structure EmbeddingResponse (K : Type) where
  model : String
  dimensions : Nat
  face_count : Nat
  faces : List (DetectedFace K)
  primary : Option (DetectedFace K)

/-- `cv2.imdecode`, and `FaceAnalysis.get`, which may raise. -/
structure Engine (Image K : Type) where
  imdecode : List UInt8 → Option Image
  get : Image → Option (List (Detection K))

structure UploadFile where
  content_type : Option String
  data : List UInt8

/-- What FastAPI answers. -/
inductive Response (K : Type) where
  | ok (body : EmbeddingResponse K)
  | failed (status : Nat) (text : String)

/-- The body of an `HTTPException`. -/
def detail (text : String) : String := "\x7b\"detail\":\"" ++ text ++ "\"\x7d"

section Service

variable {K Image : Type} [LinearOrder K] [Zero K] [Sub K] [Mul K]

def Detection.area (face : Detection K) : K :=
  max 0 (face.x2 - face.x1) * max 0 (face.y2 - face.y1)

def detected (face : Detection K) : DetectedFace K :=
  ⟨face.normed_embedding, [face.x1, face.y1, face.x2, face.y2], face.det_score, face.area⟩

/-- `FaceEngine.extract`: the largest first. -/
def extract (found : List (Detection K)) : List (DetectedFace K) :=
  Ranking.descending (·.area) (found.map detected)

variable (settings : Settings) (engine : Engine Image K)

/-- `loaded` is the `ready` of the engine. -/
def create_embeddings (loaded : Bool) (file : UploadFile) : Response K :=
  if ("image/".toList.isPrefixOf (file.content_type.getD "").toList) = false then
    .failed 415 (detail "expected an image/* upload")
  else if file.data = [] then .failed 400 (detail "empty upload")
  else if settings.max_image_bytes < file.data.length then
    .failed 413 (detail ("image exceeds " ++ toString settings.max_image_bytes ++ " bytes"))
  else if loaded = false then .failed 503 (detail "model is still loading")
  else
    match engine.imdecode file.data with
    | none => .failed 422 (detail "could not decode image; unsupported or corrupt format")
    | some image =>
        match engine.get image with
        | none => .failed 500 "Internal Server Error"
        | some found =>
            let faces := extract found
            .ok ⟨settings.insightface_model_name, settings.embedding_dimensions, faces.length,
              faces, faces.head?⟩

end Service

/-- How far a call gets: the breaker, the network, or the service itself. -/
inductive Contact where
  | breakerOpen
  | breakerTimeout (message : String)
  | unconfigured
  /-- `fetch` rejects, with this reason. -/
  | unreachable (reason : String)
  /-- Something in between answers for the service. -/
  | proxied (status : Nat) (text : String)
  | reached (loaded : Bool)

/-- The type of a `Blob`, as the part of a form states it. -/
def partType (mimetype : String) : String :=
  if mimetype.toList.all (fun c => decide (0x20 ≤ c.toNat ∧ c.toNat ≤ 0x7E)) && mimetype != "" then
    String.ofList (mimetype.toList.map Char.toLower)
  else "application/octet-stream"

def badStatus (status : Nat) (text : String) : Failure :=
  .aiBadResponse ("AI inference returned " ++ toString status ++ ": " ++
    String.ofList (text.toList.take 200))

section Client

variable {K Image : Type} [LinearOrder K] [Zero K] [Sub K] [Mul K]
variable (settings : Settings) (engine : Engine Image K)

/-- `extractEmbeddings`, past the call itself. -/
def received : Response K → Except Failure (EmbeddingResult K)
  | .failed status text => .error (badStatus status text)
  | .ok body =>
      .ok ⟨body.model, body.face_count, body.primary.map fun face =>
        ⟨face.embedding, face.det_score⟩⟩

def extractViaBreaker (contact : Contact) (file : UploadedImage) :
    Except Failure (EmbeddingResult K) :=
  match contact with
  | .breakerOpen => .error (.breaker "EOPENBREAKER" "Breaker is open")
  | .breakerTimeout message => .error (.breaker "ETIMEDOUT" message)
  | .unconfigured => .error (.aiUnavailable "AI_INFERENCE_URL is not configured")
  | .unreachable reason => .error (.aiUnavailable ("AI inference request failed: " ++ reason))
  | .proxied status text =>
      -- A success that is not the service's own has no JSON to read.
      if 200 ≤ status ∧ status < 300 then
        .error (.aiBadResponse "AI inference returned a non-JSON body")
      else .error (badStatus status text)
  | .reached loaded =>
      received (create_embeddings settings engine loaded
        ⟨some (partType file.mimetype), file.buffer⟩)

/-- `face` is the first of the largest that InsightFace finds in the image. -/
def Largest (image : List UInt8) (face : Detection K) : Prop :=
  ∃ pixels found before after, engine.imdecode image = some pixels ∧
    engine.get pixels = some found ∧ Ranking.Tops Detection.area found face before after

theorem extract_head (found : List (Detection K)) (first : DetectedFace K)
    (head : (extract found).head? = some first) :
    ∃ face before after, first = detected face ∧
      Ranking.Tops Detection.area found face before after := by
  obtain ⟨before, after, tops⟩ := Ranking.descending_head _ _ _ head
  obtain ⟨front, back, rfl, rfl, split⟩ := List.map_eq_append_iff.mp tops.split
  obtain ⟨face, rest, rfl, rfl, rfl⟩ := List.map_eq_cons_iff.mp split
  exact ⟨face, front, rest, rfl, rfl,
    fun other mem => tops.above _ (List.mem_map_of_mem mem),
    fun other mem => tops.least _ (List.mem_map_of_mem mem)⟩

/-- What the service answers with, once it answers with success. -/
theorem served_ok (loaded : Bool) (file : UploadFile) (body : EmbeddingResponse K)
    (served : create_embeddings settings engine loaded file = .ok body) :
    ∃ pixels found, file.data.length ≤ settings.max_image_bytes ∧
      engine.imdecode file.data = some pixels ∧ engine.get pixels = some found ∧
      body = ⟨settings.insightface_model_name, settings.embedding_dimensions,
        (extract found).length, extract found, (extract found).head?⟩ := by
  unfold create_embeddings at served
  split at served
  · cases served
  · split at served
    · cases served
    · split at served
      · cases served
      · next within =>
          split at served
          · cases served
          · split at served
            · cases served
            · next pixels decoded =>
                split at served
                · cases served
                · next found seen =>
                    cases served
                    exact ⟨pixels, found, Nat.le_of_not_lt within, decoded, seen, rfl⟩

/-- An answer with a face is one about the first of the largest faces. -/
theorem extracted_ok (contact : Contact) (file : UploadedImage) (result : EmbeddingResult K)
    (answered : extractViaBreaker settings engine contact file = .ok result) :
    result.model = settings.insightface_model_name ∧
      file.buffer.length ≤ settings.max_image_bytes ∧ engine.imdecode file.buffer ≠ none ∧
      ∀ primary, result.primary = some primary → ∃ face, Largest engine file.buffer face ∧
        primary.embedding = face.normed_embedding ∧ primary.det_score = face.det_score := by
  unfold extractViaBreaker at answered
  cases contact with
  | reached loaded =>
      simp only at answered
      unfold received at answered
      split at answered
      · cases answered
      · next body served =>
          obtain ⟨pixels, found, within, decoded, seen, rfl⟩ := served_ok _ _ _ _ _ served
          cases answered
          refine ⟨rfl, within, by rw [decoded]; nofun, ?_⟩
          intro primary stated
          obtain ⟨first, head, rfl⟩ := Option.map_eq_some_iff.mp stated
          obtain ⟨face, before, after, rfl, tops⟩ := extract_head found first head
          exact ⟨face, ⟨pixels, found, before, after, decoded, seen, tops⟩, rfl, rfl⟩
  | proxied status text =>
      simp only at answered
      split at answered <;> cases answered
  | _ => cases answered

/-- Whatever goes wrong on the way to an answer counts as a failure of the AI path. -/
theorem extracted_error (contact : Contact) (file : UploadedImage) (failure : Failure)
    (answered : extractViaBreaker settings engine contact file = .error failure) :
    Attendance.isAiFailure failure = true := by
  unfold extractViaBreaker at answered
  cases contact with
  | reached loaded =>
      simp only at answered
      unfold received at answered
      split at answered
      · cases answered
        rfl
      · cases answered
  | proxied status text =>
      simp only at answered
      split at answered <;> cases answered <;> rfl
  | breakerOpen =>
      cases answered
      decide
  | _ =>
      cases answered
      rfl

end Client

end FaceVec.Ai
