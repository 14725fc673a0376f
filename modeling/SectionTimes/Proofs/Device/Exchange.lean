import SectionTimes.Proofs.Device.Fetching

/-!
# Work as a dialogue

What is done with a device is a dialogue with the bridge: it is asked for one thing after the other,
and its replies are those of the link, in their order.  Work is fail-stop if the first reply that is
a failure ends it with just that failure, and if it fails for the bridge in no other way.  Work that
is put together from fail-stop work is fail-stop.
-/

namespace SectionTimes

namespace Device

/-! ## Exchanges -/

/-- What the bridge can be asked for. -/
inductive Request where
  | shell (command : String)
  | pull (remote localPath : String)

/-- A request as words. -/
def Request.words : Request → List String
  | .shell command => ["shell", command]
  | .pull remote localPath => ["pull", remote, localPath]

/-- The files of the host when they are ready for a request: a file that is to be fetched has been
made a folder for. -/
def Request.readied (files : Files) : Request → Files
  | .shell _ => files
  | .pull _ localPath => (makeWay files localPath).1

/-- One time that the bridge is asked. -/
structure Exchange where
  /-- The link when it is asked. -/
  link : Link
  /-- The words before the request. -/
  opening : List String
  request : Request

/-- The exit code with which a run of the bridge ended, if it ended. -/
def Reply.exitCode? : Reply → Option Int
  | .exited code _ _ _ => some code
  | _ => none

/-- What is said of a run of the bridge that went wrong: it ended with an exit code that is not
zero, it was given up, or it could not be started. -/
def Reply.complaint? (timeout : Binary64) : Reply → Option String
  | .exited code _ errors _ => if code = 0 then none else some errors
  | .timedOut => some s!"timed out after {timeout.toShortest}s"
  | .notStarted cause => some cause

namespace Exchange

variable (d : Device) (e : Exchange)

/-- The words that the bridge is given. -/
def words : List String := e.opening ++ e.request.words

/-- What comes of giving the bridge the words. -/
def result : EStateM.Result Failure Link Reply := (ask e.words).run e.link

/-- The reply of the bridge.  There is none where a file would have to be written at a path that no
file can have. -/
def reply? : Option Reply :=
  match e.result with
  | .ok reply _ => some reply
  | .error _ _ => none

/-- The link after the exchange. -/
def next : Link := endOf e.result

/-- The failure that the reply is, if it is one: it names the words and the exit code. -/
def failure? : Option Failure :=
  e.reply?.bind fun reply =>
    (reply.complaint? d.timeout).map fun errors => .command e.words reply.exitCode? errors

/-- The failure that comes of the exchange, if one does: that of the reply, or the one that leaves
it without a reply. -/
def fault? : Option Failure := (failureOf? e.result).or (e.failure? d)

end Exchange

/-! ## Dialogues -/

/-- Exchanges one after the other, from one link to another.  Between them nothing changes but the
log, and the files where there is to be a folder for a file. -/
inductive Dialogue (d : Device) : Link → List Exchange → Link → Prop where
  | nil {link link' : Link} (calls : link'.calls = link.calls)
      (replies : link'.replies = link.replies) (files : link'.files = link.files) :
      Dialogue d link [] link'
  | cons {link link' : Link} {e : Exchange} {es : List Exchange}
      (opening : d.opening? = some e.opening) (calls : e.link.calls = link.calls)
      (replies : e.link.replies = link.replies)
      (files : e.link.files = e.request.readied link.files) (rest : Dialogue d e.next es link') :
      Dialogue d link (e :: es) link'

namespace Dialogue

variable {d : Device} {link link₁ link₂ : Link} {es es' : List Exchange}

theorem of_same (hcalls : link₁.calls = link.calls) (hreplies : link₁.replies = link.replies)
    (hfiles : link₁.files = link.files) (h : Dialogue d link₁ es link₂) :
    Dialogue d link es link₂ := by
  cases h with
  | nil calls replies files =>
    exact .nil (calls.trans hcalls) (replies.trans hreplies) (files.trans hfiles)
  | cons opening calls replies files rest =>
    exact .cons opening (calls.trans hcalls) (replies.trans hreplies) (hfiles ▸ files) rest

theorem append (h : Dialogue d link es link₁) (h' : Dialogue d link₁ es' link₂) :
    Dialogue d link (es ++ es') link₂ := by
  induction h with
  | nil calls replies files => exact of_same calls replies files h'
  | cons opening calls replies files _ ih => exact .cons opening calls replies files (ih h')

theorem to_same (h : Dialogue d link es link₁) (hcalls : link₂.calls = link₁.calls)
    (hreplies : link₂.replies = link₁.replies) (hfiles : link₂.files = link₁.files) :
    Dialogue d link es link₂ := by
  have hend := h.append (.nil hcalls hreplies hfiles)
  rwa [List.append_nil] at hend

/-- What the bridge was asked for in a dialogue. -/
theorem calls_eq (h : Dialogue d link es link₁) :
    link₁.calls = link.calls ++ es.map Exchange.words := by
  induction h with
  | nil calls => rw [calls, List.map_nil, List.append_nil]
  | @cons _ _ e es _ calls _ _ _ ih =>
    have hnext : e.next.calls = e.link.calls ++ [e.words] := calls_ask e.link e.words
    rw [ih, hnext, calls, List.map_cons, List.append_assoc]
    rfl

theorem opening_eq {opening : List String} (hopening : d.opening? = some opening)
    (h : Dialogue d link es link₁) : ∀ e ∈ es, e.opening = opening := by
  induction h with
  | nil => exact List.forall_mem_nil _
  | cons hfirst _ _ _ _ ih =>
    exact List.forall_mem_cons.2 ⟨Option.some.inj (hfirst.symm.trans hopening), ih⟩

end Dialogue

end Device

end SectionTimes
