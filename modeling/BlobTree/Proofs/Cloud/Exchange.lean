import BlobTree.Cloud.Transcript
import BlobTree.Proofs.FileTree.Calls
import BlobTree.Proofs.Logged

/-!
# BlobTree.Proofs.Cloud.Exchange

What the calls of an action ask of the service. The store over a connected client sends one request
for a call, and two for a copy; how the call ends is read off the reply.

* `Asks`: how an action ends and what it has asked by then; one rule for each combinator.
* `Sends`, `SendsOne`: the same for what a call asks; `get_sends`, `copy_sends`: the calls that do
  more with the replies than to read them.
* `Asking`: an action that sends one request; `call_asking`, `callAt_asking`, `properties_asking`.
-/

namespace BlobTree

open BlobTree.Action BlobTree.Cloud

namespace Action

variable {σ α β : Type}

/-- From every world with a connected store, an action ends with a result and with some exchanges
such that `R`. -/
def Asks (x : Action (Link (Transcript σ)) α) (R : Except Stop α → List Exchanged → Prop) : Prop :=
  ∀ w, w.store.connected →
    x.Leads (·.client.exchanges) w fun r es l => l.connected ∧ R r es

variable {x : Action (Link (Transcript σ)) α} {R R' : Except Stop α → List Exchanged → Prop}
  {S : Except Stop β → List Exchanged → Prop}

theorem Asks.mono (h : x.Asks R) (hR : ∀ r es, R r es → R' r es) : x.Asks R' :=
  fun w hw => (h w hw).mono fun r es _ hr => ⟨hr.1, hR r es hr.2⟩

theorem asks_of_quiet {r : Except Stop α} (hx : ∀ s, x.Gives s r s) (h : R r []) : x.Asks R :=
  fun w hw => leads_of_gives (hx w.store) (List.append_nil _).symm ⟨hw, h⟩

theorem Asks.bind {f : α → Action (Link (Transcript σ)) β} (hx : x.Asks R)
    (hok : ∀ a es, R (.ok a) es → (f a).Asks fun r later => S r (es ++ later))
    (herror : ∀ e es, R (.error e) es → S (.error e) es) : (x >>= f).Asks S :=
  fun w hw => (hx w hw).bind (fun a w' es h => hok a es h.2 w' h.1)
    fun e es _ h => ⟨h.1, herror e es h.2⟩

/-- What follows an action also if it fails. -/
theorem Asks.recover {f : Except Failure α → Action (Link (Transcript σ)) β} (hx : x.Asks R)
    (hok : ∀ a es, R (.ok a) es → (f (.ok a)).Asks fun r later => S r (es ++ later))
    (hfailed : ∀ e es, R (.error (.failed e)) es →
      (f (.error e)).Asks fun r later => S r (es ++ later))
    (hunfinished : ∀ es, R (.error .unfinished) es → S (.error .unfinished) es) :
    (attempt x >>= f).Asks S :=
  fun w hw => (hx w hw).recover (fun a w' es h => hok a es h.2 w' h.1)
    (fun e w' es h => hfailed e es h.2 w' h.1) fun es _ h => ⟨h.1, hunfinished es h.2⟩

theorem Asks.measured (hx : x.Asks R) (name : Name) (labels : Option Labels) :
    (Action.measured name x labels).Asks R :=
  fun w hw => (hx w hw).measured name labels

/-- An action that sends one request and ends as the reply says. -/
def Asking (x : Action (Link (Transcript σ)) α) (q : Request) (value : q.Reply → Except Failure α)
    (reading : Fault → Except Failure α) : Prop :=
  x.Asks fun r es => ∃ reply, es = [⟨q, reply⟩] ∧
    r = (match reply with | .ok a => value a | .error f => reading f).mapError .failed

end Action

namespace Cloud

variable {σ α β : Type}

@[simp] theorem mapError_ok {ε ε' : Type} (f : ε → ε') (a : α) :
    (Except.ok a : Except ε α).mapError f = .ok a := rfl

@[simp] theorem mapError_error {ε ε' : Type} (f : ε → ε') (e : ε) :
    (Except.error e : Except ε α).mapError f = .error (f e) := rfl

/-- From every transcript, an exchange with the service ends with a result and some requests and
replies such that `R`. -/
def Sends (x : Exchange (Transcript σ) α) (R : Except StoreError α → List Exchanged → Prop) :
    Prop :=
  ∀ t, ∃ r t' es, x t = (r, t') ∧ t'.exchanges = t.exchanges ++ es ∧ R r es

variable {x : Exchange (Transcript σ) α} {R : Except StoreError α → List Exchanged → Prop}
  {S : Except StoreError β → List Exchanged → Prop}

theorem sends_of_quiet {r : Except StoreError α} (hx : ∀ t, x t = (r, t)) (h : R r []) :
    Sends x R :=
  fun t => ⟨r, t, [], hx t, (List.append_nil _).symm, h⟩

theorem Sends.bind {f : α → Exchange (Transcript σ) β} (hx : Sends x R)
    (hok : ∀ a es, R (.ok a) es → Sends (f a) fun r later => S r (es ++ later))
    (herror : ∀ e es, R (.error e) es → S (.error e) es) : Sends (x >>= f) S := by
  intro t
  obtain ⟨e | a, t', es, hrun, hes, hr⟩ := hx t
  · refine ⟨.error e, t', es, ?_, hes, herror e es hr⟩
    show (ExceptT.bindCont f (x t).1) (x t).2 = _
    rw [hrun]
    rfl
  · obtain ⟨r, t'', later, hrest, hlater, hS⟩ := hok a es hr t'
    refine ⟨r, t'', es ++ later, ?_, by rw [hlater, hes, List.append_assoc], hS⟩
    show (ExceptT.bindCont f (x t).1) (x t).2 = _
    rw [hrun]
    exact hrest

variable (client : Client σ)

/-- An exchange of one request ends as the reply says. -/
def SendsOne {α : Type} (x : Exchange (Transcript σ) α) (q : Request)
    (value : q.Reply → Except StoreError α) (reading : Fault → StoreError) : Prop :=
  Sends x fun r es => ∃ reply : Except Fault q.Reply, es = [⟨q, reply⟩] ∧
    r = match reply with | .ok a => value a | .error f => .error (reading f)

theorem send_sends (q : Request) (reading : Fault → StoreError) :
    SendsOne (send client.transcribed q reading) q .ok reading := by
  intro t
  refine ⟨_, _, _, rfl, rfl, (client.answer t.client q).1, rfl, ?_⟩
  show ((client.answer t.client q).1).mapError reading = _
  cases (client.answer t.client q).1 <;> rfl

/-- The reply to a request is looked at when it succeeds. -/
theorem send_bind_sends {q : Request} {reading : Fault → StoreError}
    {f : q.Reply → Exchange (Transcript σ) α} {value : q.Reply → Except StoreError α}
    (hf : ∀ a t, f a t = (value a, t)) :
    SendsOne (send client.transcribed q reading >>= f) q value reading := by
  refine Sends.bind (send_sends client q reading) ?_ ?_
  · rintro a _ ⟨reply | reply, rfl, h⟩
    · cases h
    · cases h
      exact sends_of_quiet (hf a) ⟨.ok a, rfl, rfl⟩
  · rintro e _ ⟨reply | reply, rfl, h⟩
    · cases h
      exact ⟨.error reply, rfl, rfl⟩
    · cases h

def pageOf : Option Segment → Page
  | none => ⟨[], []⟩
  | some s => ⟨s.names, s.token.getD []⟩

theorem listPage_sends (start : Name) (r : PageRequest) :
    SendsOne (exchange client.transcribed (.listPage start r))
      (.list (nonEmpty start) (r.marker.bind nonEmpty) r.maxResults) (fun s => .ok (pageOf s))
      Fault.error :=
  send_bind_sends client fun s t => by cases s <;> rfl

def propertiesOf (d : Description) : Properties :=
  ⟨d.contentLength.getD (.ofNat 0), d.lastModified.getD 0, kindOf d.blobType⟩

theorem properties_sends (key : Name) :
    SendsOne (exchange client.transcribed (.properties key)) (.describe key)
      (fun d => .ok (propertiesOf d)) (Fault.about key) :=
  send_bind_sends client fun _ _ => rfl

/-- The stream of a download, which may have come without a body. -/
def bodyOf (key : Name) : Option ByteStream → Except StoreError ByteStream
  | none => .error (.noContent key)
  | some stream => .ok stream

theorem bodyOf_bind_ok (key : Name) : (fun s => (bodyOf key s).bind .ok) = bodyOf key := by
  funext s
  cases s <;> rfl

theorem read_sends (key : Name) (offset : Number) :
    SendsOne (exchange client.transcribed (.read key offset)) (.download key offset) (bodyOf key)
      (Fault.about key) :=
  send_bind_sends client fun s t => by cases s <;> rfl

/-- A copy asks for a second reply if it has been begun. -/
theorem copy_sends (source dest : Name) :
    Sends (exchange client.transcribed (.copy source dest)) fun r es =>
      (∃ f, es = [⟨.beginCopy dest (client.url source), .error f⟩] ∧
        r = .error (Fault.about source f)) ∨
      ∃ reply, es = [⟨.beginCopy dest (client.url source), .ok ()⟩, ⟨.finishCopy dest, reply⟩] ∧
        r = reply.mapError (Fault.about source) := by
  refine Sends.bind (send_sends client (.beginCopy dest (client.url source)) _) ?_ ?_
  · rintro a _ ⟨f | begun, rfl, h⟩
    · cases h
    · intro t
      obtain ⟨r, t', es, hrun, hes, reply, rfl, rfl⟩ :=
        send_sends client (.finishCopy dest) (Fault.about source) t
      refine ⟨_, t', _, hrun, hes, .inr ⟨reply, rfl, ?_⟩⟩
      cases reply <;> rfl
  · rintro e _ ⟨f | begun, rfl, h⟩
    · cases h
      exact .inl ⟨f, rfl, rfl⟩
    · cases h

theorem get_sends (key : Name) :
    SendsOne (exchange client.transcribed (.get key)) (.download key (.ofNat 0))
      (fun s => (bodyOf key s).bind ByteStream.drain) (Fault.about key) := by
  refine Sends.bind (read_sends client key (.ofNat 0)) ?_ ?_
  · rintro stream _ ⟨reply | s, rfl, h⟩
    · cases h
    · refine sends_of_quiet (r := stream.drain) (fun t => ?_) ⟨.ok s, rfl, ?_⟩
      · cases stream.drain <;> rfl
      · simp only [← h, Except.bind]
  · rintro e _ ⟨reply, rfl, h⟩
    refine ⟨reply, rfl, ?_⟩
    cases reply with
    | error f =>
      cases h
      rfl
    | ok s => simp only [← h, Except.bind]

end Cloud

namespace FileTree

variable {σ α : Type} {client : Client σ}

/-- What an action that makes one call asks of the service. -/
theorem asks_of_sends {c : Call} {x : Action (Link (Transcript σ)) α}
    (ending : Except StoreError c.Reply → Except Stop α)
    (hx : ∀ s, x.Gives s (ending ((backend client.transcribed).answer s c).1)
      ((backend client.transcribed).answer s c).2)
    {R : Except StoreError c.Reply → List Exchanged → Prop}
    (hsends : Sends (exchange client.transcribed c) R) :
    x.Asks fun r es => ∃ reply, R reply es ∧ r = ending reply := by
  intro w hw
  obtain ⟨reply, t, es, hrun, hes, hR⟩ := hsends w.store.client
  -- a connected store answers with what the exchange gave
  have hanswer : (backend client.transcribed).answer w.store c =
      (reply, { w.store with client := t }) := by
    simp only [backend, hw, if_true, hrun]
  have hgives := hx w.store
  rw [hanswer] at hgives
  exact leads_of_gives hgives hes ⟨hw, reply, hR, rfl⟩

section Calls

variable {c : Call} {q : Cloud.Request} {value : q.Reply → Except StoreError c.Reply}
  {reading : Fault → StoreError}

/-- An action that makes one call of one request, with a reading of the failures of the store. -/
theorem asking_of_sends {x : Action (Link (Transcript σ)) c.Reply} {failure : StoreError → Failure}
    (hx : ∀ s, x.Gives s (((backend client.transcribed).answer s c).1.mapError fun e =>
      .failed (failure e)) ((backend client.transcribed).answer s c).2)
    (h : SendsOne (exchange client.transcribed c) q value reading) :
    x.Asking q (fun a => (value a).mapError failure) (fun f => .error (failure (reading f))) := by
  refine (asks_of_sends (fun r => r.mapError fun e => .failed (failure e)) hx h).mono ?_
  rintro r es ⟨_, ⟨reply, rfl, rfl⟩, rfl⟩
  refine ⟨reply, rfl, ?_⟩
  cases reply with
  | error f => rfl
  | ok a => cases hvalue : value a <;> simp only [hvalue] <;> rfl

theorem call_asking (h : SendsOne (exchange client.transcribed c) q value reading) :
    (call (backend client.transcribed) c).Asking q (fun a => (value a).mapError .store)
      (fun f => .error (.store (reading f))) :=
  asking_of_sends (gives_call _ c) h

theorem callAt_asking (path : Name)
    (h : SendsOne (exchange client.transcribed c) q value reading) :
    (callAt (backend client.transcribed) path c).Asking q
      (fun a => (value a).mapError fun e => Failure.atPath path (.store e))
      (fun f => .error (Failure.atPath path (.store (reading f)))) :=
  asking_of_sends (callAt_gives _ path c) h

end Calls

/-- What a description that cannot be had means. -/
def undescribed : Fault → Except Failure (Option Properties)
  | .rest 404 _ => .ok none
  | f => .error (.store f.error)

theorem undescribed_of_not_absent {f : Fault} (h : ¬f.Absent) :
    undescribed f = .error (.store f.error) := by
  unfold undescribed
  split
  · exact absurd ⟨_, rfl⟩ h
  · rfl

theorem properties_asking (key : Name) :
    (properties? (backend client.transcribed) key).Asking (.describe key)
      (fun d => .ok (some (propertiesOf d))) undescribed := by
  refine (asks_of_sends (c := .properties key) found (properties_gives _ key)
    (properties_sends client key)).mono ?_
  rintro r es ⟨_, ⟨reply, rfl, rfl⟩, rfl⟩
  refine ⟨reply, rfl, ?_⟩
  cases reply with
  | ok d => rfl
  | error f =>
    by_cases h : f.Absent
    · obtain ⟨message, rfl⟩ := h
      rfl
    · simp only [Fault.about_of_not_absent h, undescribed_of_not_absent h]
      cases f <;> rfl

end FileTree
end BlobTree
