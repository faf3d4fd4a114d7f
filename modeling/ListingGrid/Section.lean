import ListingGrid.Field
import ListingGrid.Filter

/-!
# Fieldsets and sections

A fieldset is the list of fields that one line fills. A section has fieldsets
for the head, the body and the foot of each of its groups. Some sections are
taken from a listing only once; a mark remembers that they were.
-/

set_option autoImplicit false

namespace ListingGrid

inductive Role where
  | header
  | body
  | footer
  deriving DecidableEq, Repr

namespace Role

def all : List Role := [.header, .body, .footer]

def keyword : Role → String
  | .header => "header"
  | .body => "body"
  | .footer => "footer"

end Role

structure Fieldset where
  role : Role
  fields : List Field
  includeFilters : List LineFilter
  newRow : Bool
  keepInRow : Bool

namespace Fieldset

def special (role : Role) (fields : List Field) : Fieldset := ⟨role, fields, [], false, false⟩

end Fieldset

structure Section where
  once : Bool
  blankRow : Bool
  header : List Fieldset
  body : List Fieldset
  footer : List Fieldset
  processed : Bool

namespace Section

def bare (once blankRow : Bool) : Section := ⟨once, blankRow, [], [], [], false⟩

def push (s : Section) (fieldset : Fieldset) : Section :=
  match fieldset.role with
  | .header => { s with header := s.header ++ [fieldset] }
  | .body => { s with body := s.body ++ [fieldset] }
  | .footer => { s with footer := s.footer ++ [fieldset] }

def fieldsets (s : Section) : Role → List Fieldset
  | .header => s.header
  | .body => s.body
  | .footer => s.footer

def allFieldsets (s : Section) : List Fieldset := s.header ++ s.body ++ s.footer

def markProcessed (s : Section) : Section := { s with processed := true }

def resetProcessed (s : Section) : Section := { s with processed := false }

def isExhausted (s : Section) : Bool := s.once && s.processed

end Section

end ListingGrid
