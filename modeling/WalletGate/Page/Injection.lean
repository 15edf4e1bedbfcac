import WalletGate.Page.Denylist
import WalletGate.Page.Document
/-!
# Injection

Whether the wallet may put its interface into a page: the page is an HTML document, not a file to
look at, and not on the denylist. A page without a readable URL is left alone.
-/

namespace WalletGate.Page

/-- The endings of paths whose documents are files to look at. -/
def fileEndings : List String := [".xml", ".pdf"]

/-- Whether a path ends in the ending of a file, in either case. -/
def namesFile (path : String) : Bool :=
  fileEndings.any fun ending => ending.toList.isSuffixOf (Text.lowerText path).toList

/-- Whether a document without type, or of type HTML, is at hand. -/
def Document.hasHtmlType (x : Document) : Bool := x.doctypeName.all (· == "html")

/-- Whether the root element, if there is one, is that of HTML. -/
def Document.hasHtmlRoot (x : Document) : Bool := x.rootElement.all (Text.eqIgnoringCase · "html")

/-- Whether the wallet may put its interface into a document. -/
def Denylist.admits (d : Denylist) (x : Document) : Bool :=
  x.hasHtmlType && x.hasHtmlRoot &&
    match Url.parse x.url with
    | .error _ => false
    | .ok url =>
      -- a URL without a host is looked up with the empty one, which no entry that is read has
      !namesFile url.path && !d.blocks (Text.lowerText (url.hostText?.getD "")) url.path

end WalletGate.Page
