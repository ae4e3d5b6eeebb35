import ScreenCapture.Capture.Controller

namespace ScreenCapture

/-- Captures over one compositor, numbered as they were created. -/
structure Session where
  compositor : Compositor
  controllers : Registry Nat Controller
  nextIndex : Nat

namespace Session

/-- Starts the threads that serve the compositor; captures are created only after that. -/
def start (c : Compositor) : Session := ⟨c.startPool, .empty, 0⟩

def restart (s : Session) : Session := { s with compositor := s.compositor.startPool }

def displayInfo (s : Session) (id : Int32) : Except CaptureError DisplayInfo × Session :=
  let (r, compositor) := s.compositor.probe id
  (r, { s with compositor })

def create (s : Session) (displayId : Int32) : Nat × Session :=
  (s.nextIndex,
    { s with controllers := s.controllers.insert s.nextIndex (.new displayId),
             nextIndex := s.nextIndex + 1 })

/-- Runs an operation of a capture, if it still exists. -/
def on {α : Type} (s : Session) (index : Nat)
    (operation : Controller → Compositor → α × Controller × Compositor) : Option (α × Session) :=
  (s.controllers.find? index).map fun k =>
    let (r, k, compositor) := operation k s.compositor
    (r, { s with compositor, controllers := s.controllers.modify index fun _ => k })

/-- Drops a capture, which is released if it was not. -/
def drop (s : Session) (index : Nat) : Session :=
  match s.controllers.find? index with
  | none => s
  | some k =>
    { s with compositor := (k.release s.compositor).2, controllers := s.controllers.erase index }

/-- Drops every capture, the newest first. -/
def close (s : Session) : Session := s.controllers.keys.foldr (fun index s => s.drop index) s

end Session

end ScreenCapture
