import RuleActivation.Registry

/-!
# Sessions

A handle is asked one thing after the other: to read a document, to take another registry, or to
hand the current registry out. A registry that has been handed out stays with whoever has asked for
it, whatever becomes of the handle.

## Main definitions

* `Registry.Request`, `Registry.Reply`: what a handle is asked and what it replies
* `Registry.Handle.answer`, `Registry.Handle.run`: one request, and a list of them
-/

namespace RuleActivation.Registry

/-- What is asked of a handle. -/
inductive Request where
  | reload (document : Json)
  | replace (registry : Registry)
  | snapshot

/-- What a handle replies. -/
inductive Reply where
  | done
  | failed (error : RegistryError)
  | handedOut (registry : Registry)

namespace Handle

/-- The handle after a request, and the reply. -/
def answer (handle : Handle) : Request → Handle × Reply
  | .reload document =>
    let (handle, error) := handle.reload document
    (handle, error.elim .done .failed)
  | .replace registry => (handle.replace registry, .done)
  | .snapshot => (handle, .handedOut handle.current)

/-- The handle after some requests, and the replies in order. -/
def run (handle : Handle) : List Request → Handle × List Reply
  | [] => (handle, [])
  | request :: rest =>
    let (next, reply) := handle.answer request
    let (last, replies) := next.run rest
    (last, reply :: replies)

end Handle

end RuleActivation.Registry
