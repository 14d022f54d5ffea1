/-!
# What the engine draws from outside

The engine needs a clock for the identifiers of new folders and a choice of colour for each of
them. Both are given as sequences, together with how much of each has been used, so that a run is
a function of its inputs. A failing clock or a failing choice is an entry `none`.
-/

namespace FolderTalk

/-- Clock readings in milliseconds and colour choices, with the number of each already drawn. -/
structure Sources where
  clock : Nat → Option Int
  colorFrom : Nat → List String → Option String
  readings : Nat := 0
  choices : Nat := 0

namespace Sources

/-- The next clock reading. -/
def now? (s : Sources) : Option Int := s.clock s.readings

def afterReading (s : Sources) : Sources := { s with readings := s.readings + 1 }

/-- The next choice from a palette. -/
def color? (s : Sources) (palette : List String) : Option String := s.colorFrom s.choices palette

def afterChoice (s : Sources) : Sources := { s with choices := s.choices + 1 }

end Sources

end FolderTalk
