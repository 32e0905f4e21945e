import Switchboard.Machine.State

/-!
# Creating and deleting streams

A creation checks that the id is free, has the client build a stream, and
registers it; if another stream has taken the id meanwhile, the new one is
stopped.  A deletion looks the stream up, asks the client whether it may go,
removes it only if this very stream still stands under the id, and then stops
it.  Between the steps anything may happen.
-/

namespace Switchboard

namespace Shared

variable {σ κ ν : Type}

/-- Check that the id is free, and have a stream built. -/
def create (shared : Shared σ ν) (stack : List (Frame κ))
    (descriptor : Descriptor) :
    Turn σ κ ν :=
  if shared.registry.contains descriptor.id then
    .answer (shared.notice (.streamExists descriptor)) stack
      (.created (.error (.registry (.duplicate descriptor.id))))
  else
    .call shared stack (.creating descriptor)
      (.createStream descriptor shared.settings.workers)

/-- The client has built a stream, or has not. -/
def built (shared : Shared σ ν) (stack : List (Frame κ))
    (descriptor : Descriptor) :
    Option Stream → Turn σ κ ν
  | none =>
      .answer (shared.notice (.creationFailed descriptor)) stack
        (.created (.error (.creationFailed descriptor.id descriptor.name)))
  | some stream => .run shared stack (.insert descriptor stream)

/-- Register a new stream, or stop it if the id is taken. -/
def insert (shared : Shared σ ν) (stack : List (Frame κ))
    (descriptor : Descriptor) (stream : Stream) : Turn σ κ ν :=
  match Registry.register shared.registry descriptor.id stream with
  | .error error =>
      .call shared stack (.losing descriptor error) (.stopStream stream)
  | .ok registry =>
      .answer
        ((({ shared with registry := registry }).notice
          (.streamRegistered descriptor.id stream registry.size)).notice
          (.streamCreated descriptor shared.settings.workers))
        stack (.created (.ok stream))

/-- The stream that came too late is stopped. -/
def lost (shared : Shared σ ν) (stack : List (Frame κ))
    (descriptor : Descriptor) (error : RegistryError) : Turn σ κ ν :=
  .answer (shared.notice (.streamExists descriptor)) stack
    (.created (.error (.registry error)))

/-- Look a stream up, and ask whether it may go. -/
def delete (shared : Shared σ ν) (stack : List (Frame κ))
    (descriptor : Descriptor) :
    Turn σ κ ν :=
  match shared.registry.find? descriptor.id with
  | none =>
      .answer (shared.notice (.streamMissing descriptor)) stack
        (.concluded (.error (.registry (.notFound descriptor.id))))
  | some stream =>
      .call shared stack (.releasing descriptor stream)
        (.deleteStream descriptor stream)

/-- The client lets the stream go, or does not. -/
def released (shared : Shared σ ν) (stack : List (Frame κ))
    (descriptor : Descriptor) (stream : Stream) (accepted : Bool) :
    Turn σ κ ν :=
  if accepted then
    .run shared stack (.remove descriptor stream)
  else
    .answer (shared.notice (.deletionRejected descriptor)) stack
      (.concluded (.error (.deletionRejected descriptor.id descriptor.name)))

/-- Remove the stream if it still stands under its id, and stop it. -/
def remove (shared : Shared σ ν) (stack : List (Frame κ))
    (descriptor : Descriptor) (stream : Stream) : Turn σ κ ν :=
  match Registry.unregisterEntry shared.registry descriptor.id stream with
  | .error error => .answer shared stack (.concluded (.error (.registry error)))
  | .ok (removed, registry) =>
      .call
        (({ shared with registry := registry }).notice
          (.streamUnregistered descriptor.id removed registry.size))
        stack (.stopping descriptor) (.stopStream stream)

/-- The removed stream is stopped. -/
def deleted (shared : Shared σ ν) (stack : List (Frame κ))
    (descriptor : Descriptor) :
    Turn σ κ ν :=
  .answer (shared.notice (.streamDeleted descriptor)) stack
    (.concluded (.ok ()))

/-- Register a stream in a registry that belongs to no application. -/
def register (shared : Shared σ ν) (stack : List (Frame κ)) (id : UInt32)
    (stream : Stream) : Turn σ κ ν :=
  match Registry.register shared.registry id stream with
  | .error error => .answer shared stack (.registered (.error error))
  | .ok registry =>
      .answer
        (({ shared with registry := registry }).notice
          (.streamRegistered id stream registry.size))
        stack (.registered (.ok ()))

/-- Remove a stream from a registry that belongs to no application. -/
def unregister (shared : Shared σ ν) (stack : List (Frame κ)) (id : UInt32) :
    Turn σ κ ν :=
  match Registry.unregister shared.registry id with
  | .error error => .answer shared stack (.unregistered (.error error))
  | .ok (stream, registry) =>
      .answer
        (({ shared with registry := registry }).notice
          (.streamUnregistered id stream registry.size))
        stack (.unregistered (.ok stream))

end Shared

end Switchboard
