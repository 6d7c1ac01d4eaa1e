import BlobTree.Proofs.Store.Refusal
import BlobTree.Proofs.Writer.Sends

/-!
# BlobTree.Proofs.Writer.Refusal

A refusal of the store on its way through a session. A chunk that is refused ends the append, and
the caller of the session gets the store's own failure, not the report of how far the append came.

* `send_passedOn`: pieces are sent up to the first refusal.
* `perform_passedOn`: every call on a session.
-/

namespace BlobTree

variable {σ : Type}

theorem Append.send_passedOn (b : Backend σ) (key : Name) (ps : List Bytes) (s : Traced σ) :
    PassedOn s (send b.traced key ps s).2 fun e =>
      (send b.traced key ps s).1.failure = some e := by
  induction ps generalizing s with
  | nil => exact .refl s _
  | cons piece more ih =>
    have hcall := PassedOn.call b s (.appendChunk key piece)
    rw [send]
    generalize b.traced.answer s (.appendChunk key piece) = answered at hcall ⊢
    obtain ⟨e | _, s'⟩ := answered
    · exact hcall.mono fun _ _ heq => congrArg some (Except.error.inj heq)
    · exact hcall.trans (fun _ heq => by cases heq) (ih s')

theorem Writer.perform_passedOn (b : Backend σ) (q : Request) (w : Writer)
    (world : World (Traced σ)) :
    PassedOn world.store (perform b.traced q w world).2.2.store fun e =>
      (perform b.traced q w world).1 = .error (.store e) := by
  rcases perform_cases b.traced q w with
    ⟨ps, ending, hreport, -, hrun⟩ | ⟨w', -, hrun⟩
  · obtain ⟨journal, heq⟩ := hrun world
    rw [heq]
    exact (Append.send_passedOn b w.key ps world.store).mono fun e _ he =>
      hreport world.store e he
  · obtain ⟨journal, heq⟩ := hrun world
    rw [heq]
    refine (PassedOn.call b world.store (.delete w.key)).mono fun e hfound he => ?_
    rw [he]
    cases e with
    | notFound key => exact absurd rfl (hfound key)
    | _ => rfl

end BlobTree
