import CallGuard.Script

/-! # Described worlds

A world that scripts can be run on without a machine: a disk, what has been printed, the keys that will be pressed, and
what the clock will show. -/

namespace CallGuard

/-- What surrounds a script. -/
structure World where
  /-- The files and folders. -/
  disk : Disk
  /-- What has been printed. -/
  printed : String
  /-- What has been printed among the error messages. -/
  complaints : String
  /-- The keys that will be pressed, if there is a terminal. -/
  keys : Option (List Char)
  /-- What the clock will show. -/
  clock : Clock

namespace World

/-- Changes the disk if the change succeeds. -/
def changeDisk (w : World) : Except OsFault Disk → Except OsFault Unit × World
  | .ok disk => (.ok (), { w with disk := disk })
  | .error fault => (.error fault, w)

/-- Answers a request. -/
def answer (w : World) : (r : Request) → r.Answer × World
  | .isPresent path => (w.disk.isPresent path, w)
  | .read path => (w.disk.read path, w)
  | .readNearest name => ((w.disk.read name).toOption, w)
  | .append path text => w.changeDisk (w.disk.append path text)
  | .makeParents path => w.changeDisk (w.disk.makeParents path)
  | .write path text => w.changeDisk (w.disk.write path text)
  | .print text => ((), { w with printed := w.printed ++ text })
  | .complain text => ((), { w with complaints := w.complaints ++ text })
  | .confirm _ =>
    match w.keys with
    | none => (none, w)
    | some keys =>
      let (yes, keys) := Request.reply keys
      (some yes, { w with keys := some keys })
  | .now => (w.clock 0, { w with clock := w.clock.after 1 })

end World

/-- Runs a script on a world. -/
def Script.run {α : Type} (script : Script α) (w : World) : α × World :=
  match script with
  | .done result => (result, w)
  | .ask request next =>
    let (answer, w) := w.answer request
    (next answer).run w

end CallGuard
