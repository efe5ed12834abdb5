import LineTemplate.File.Loader

/-!
Histories of loaders: what can happen to a loader and to the files that it reads, one step after the
other, and the loads that are made on the way.
-/

set_option autoImplicit false

namespace LineTemplate

inductive LoaderStep where
  | load (filename : Text)
  | loadAll
  | clear
  /-- Files are made, changed or removed: from here on these are there. -/
  | change (files : FileTree)

structure LoaderState where
  loader : Loader
  files : FileTree

structure LoadCall where
  filename : Text
  files : FileTree
  outcome : Except ErrorReport TemplateFile

namespace Loader

def callsOfEach (files : FileTree) (l : Loader) : List Text → List LoadCall
  | [] => []
  | filename :: rest =>
    match l.load files filename with
    | (.error e, _) => [⟨filename, files, .error e⟩]
    | (.ok file, l) => ⟨filename, files, .ok file⟩ :: callsOfEach files l rest

def callsOfAll (l : Loader) (files : FileTree) : List LoadCall :=
  match list files l.base with
  | .error _ => []
  | .ok filenames => callsOfEach files l filenames

end Loader

namespace LoaderState

def perform (s : LoaderState) : LoaderStep → LoaderState
  | .load filename => { s with loader := (s.loader.load s.files filename).2 }
  | .loadAll => { s with loader := (s.loader.loadAll s.files).2 }
  | .clear => { s with loader := s.loader.clear }
  | .change files => { s with files }

def performAll (s : LoaderState) (steps : List LoaderStep) : LoaderState := steps.foldl perform s

def calls (s : LoaderState) : LoaderStep → List LoadCall
  | .load filename => [⟨filename, s.files, (s.loader.load s.files filename).1⟩]
  | .loadAll => s.loader.callsOfAll s.files
  | .clear | .change _ => []

def callsSince (made : List LoadCall) (s : LoaderState) : List LoaderStep → List LoadCall
  | [] => made
  | .clear :: rest => callsSince [] (s.perform .clear) rest
  | step :: rest => callsSince (made ++ s.calls step) (s.perform step) rest

end LoaderState

def firstLoaded (made : List LoadCall) (filename : Text) : Option LoadCall :=
  made.find? fun c => c.filename = filename && c.outcome.isOk

end LineTemplate
