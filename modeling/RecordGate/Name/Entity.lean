import RecordGate.Name.Casing
import RecordGate.Name.Singular
import RecordGate.Text.Blank

/-!
# `RecordGate.Name.Entity` — from the name of a collection to the name of its entity

A collection is named in the plural (`blog_posts`), its entity by a constant in the singular (`BlogPost`). Only
the last word is put into the singular. A name that is already a constant is read as its words, so `BlogPosts`
and `BlogPost` name the same entity.
-/

namespace RecordGate.Name

open Text

/-- What precedes the last underscore, and what follows it; the name itself follows if it has none. -/
def splitLast (cs : List Char) : List Char × List Char :=
  let last := (cs.reverse.takeWhile (· != '_')).reverse
  (cs.take (cs.length - last.length - 1), last)

/-- The constant that names the entity of a collection. -/
def entity (collection : List Char) : List Char :=
  let (head, last) := splitLast (snake (trim collection))
  camel head ++ camel (singular last)

/-- The constant that names the entity of a collection: `blog_posts` becomes `BlogPost`. -/
def entityName (collection : String) : String :=
  String.ofList (entity collection.toList)

/-- An acceptable collection name: an ASCII letter, then ASCII letters, digits and underscores. -/
def isCollection : List Char → Bool
  | [] => false
  | c :: cs => isLetter c && cs.all isNamePart

/-- Whether a text is an acceptable collection name. -/
def isCollectionName (s : String) : Bool :=
  isCollection s.toList

end RecordGate.Name
