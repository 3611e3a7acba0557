import RestQuery.Http.Response
import RestQuery.Text.Blank

/-!
# Page information

The headers of a list response tell which page it is. A header that is missing or no number tells
nothing. Pages are counted from one.
-/

namespace RestQuery.Page

/-- The names of the headers that tell about pages. -/
structure HeaderNames where
  totalCount : String := "x-pagination-total-count"
  pageCount : String := "x-pagination-page-count"
  currentPage : String := "x-pagination-current-page"
  perPage : String := "x-pagination-per-page"
  deriving DecidableEq, Inhabited

/-- What a response tells about its page. -/
structure Info where
  perPage : Option Nat := none
  currentPage : Option Nat := none
  pageCount : Option Nat := none
  totalCount : Option Nat := none
  deriving DecidableEq, Inhabited, Repr

/-- What the headers of a response tell, under the given names. -/
def Info.ofResponse (names : HeaderNames) (r : Response) : Info :=
  let read (name : String) : Option Nat :=
    (r.header? name).bind fun value => Text.nat? Text.maxWord64 (Text.trim value)
  { perPage := read names.perPage
    currentPage := read names.currentPage
    pageCount := read names.pageCount
    totalCount := read names.totalCount }

/-- Whether a page follows: only if the response tells a current page below the number of pages. -/
def Info.hasMore (p : Info) : Bool :=
  match p.currentPage, p.pageCount with
  | some current, some count => current < count
  | _, _ => false

/-- The offset of the page that follows. There is none on the last page, without a page size, or if
it exceeds 64 bits. -/
def Info.nextOffset? (p : Info) : Option Nat :=
  if p.hasMore then do
    let current ← p.currentPage
    let size ← p.perPage
    if current * size ≤ Text.maxWord64 then some (current * size) else none
  else none

end RestQuery.Page
