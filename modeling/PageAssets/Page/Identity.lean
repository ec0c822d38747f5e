import PageAssets.Failure

/-! Page identities: the names that pages are known by, which also name their assets. They are
made of characters that are safe in a path, and none starts with a dot. -/

namespace PageAssets.Page

def htmlExtension : String := ".html"

/-- ASCII letters and digits, underline, hyphen and dot. -/
def isIdentityChar (c : Char) : Bool := c.isAlphanum || c = '_' || c = '-' || c = '.'

def isIdentity (identity : String) : Bool :=
  match identity.toList with
  | [] => false
  | c :: rest => isIdentityChar c && c != '.' && rest.all isIdentityChar

def checkIdentity (identity : String) : Except Failure Unit :=
  if isIdentity identity then .ok () else .error (.invalidIdentity identity)

def isPageName (fileName : String) : Bool :=
  htmlExtension.toList.isSuffixOf fileName.toList

def baseName (fileName : String) : String :=
  if isPageName fileName then
    String.ofList (fileName.toList.take (fileName.toList.length - htmlExtension.toList.length))
  else fileName

def identityOfFile (fileName : String) : Except Failure String := do
  checkIdentity (baseName fileName)
  return baseName fileName

def fileOfIdentity (identity : String) : String := identity ++ htmlExtension

end PageAssets.Page
