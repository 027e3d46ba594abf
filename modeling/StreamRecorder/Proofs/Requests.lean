import Mathlib
import StreamRecorder.Engine.Traced

namespace StreamRecorder.Engine

variable {σ : Type} [Engine σ]

def serve (engine : σ) : Request → Answer × σ
  | .build plan => (.built (Engine.build engine plan).1, (Engine.build engine plan).2)
  | .push graph endpoint buffer =>
      (.accepted (Engine.push engine graph endpoint buffer).1,
        (Engine.push engine graph endpoint buffer).2)
  | .endOfStream graph endpoint =>
      (.accepted (Engine.endOfStream engine graph endpoint).1,
        (Engine.endOfStream engine graph endpoint).2)
  | .awaitCompletion graph timeout =>
      (.completed (Engine.awaitCompletion engine graph timeout).1,
        (Engine.awaitCompletion engine graph timeout).2)
  | .halt graph => (.done, Engine.halt engine graph)
  | .release graph => (.done, Engine.release engine graph)

def afterAll (engine : σ) : List Request → σ
  | [] => engine
  | request :: rest => afterAll (serve engine request).2 rest

def exchanges (engine : σ) : List Request → List Exchange
  | [] => []
  | request :: rest =>
      ⟨request, (serve engine request).1⟩ :: exchanges (serve engine request).2 rest

@[simp] theorem afterAll_nil (engine : σ) : afterAll engine [] = engine := rfl

@[simp] theorem exchanges_nil (engine : σ) : exchanges engine [] = [] := rfl

theorem afterAll_append (engine : σ) (first rest : List Request) :
    afterAll engine (first ++ rest) = afterAll (afterAll engine first) rest := by
  induction first generalizing engine with
  | nil => rfl
  | cons request first ih => exact ih (serve engine request).2

theorem exchanges_append (engine : σ) (first rest : List Request) :
    exchanges engine (first ++ rest) =
      exchanges engine first ++ exchanges (afterAll engine first) rest := by
  induction first generalizing engine with
  | nil => rfl
  | cons request first ih => exact congrArg _ (ih (serve engine request).2)

theorem exchanges_requests (engine : σ) (requests : List Request) :
    (exchanges engine requests).map Exchange.request = requests := by
  induction requests generalizing engine with
  | nil => rfl
  | cons request rest ih => exact congrArg _ (ih (serve engine request).2)

theorem request_mem {engine : σ} {requests : List Request} {exchange : Exchange}
    (member : exchange ∈ exchanges engine requests) : exchange.request ∈ requests := by
  rw [← exchanges_requests engine requests]
  exact List.mem_map_of_mem member

theorem serve_traced (traced : TracedEngine σ) (request : Request) :
    serve traced request = ((serve traced.engine request).1,
      traced.noted (serve traced.engine request).2 request (serve traced.engine request).1) := by
  cases request <;> rfl

theorem afterAll_traced (traced : TracedEngine σ) (requests : List Request) :
    (afterAll traced requests).engine = afterAll traced.engine requests ∧
      (afterAll traced requests).transcript.toList =
        traced.transcript.toList ++ exchanges traced.engine requests := by
  induction requests generalizing traced with
  | nil => simp
  | cons request rest ih =>
      simp only [afterAll, exchanges, serve_traced]
      refine ⟨(ih _).1, (ih _).2.trans ?_⟩
      simp [TracedEngine.noted]

end StreamRecorder.Engine
