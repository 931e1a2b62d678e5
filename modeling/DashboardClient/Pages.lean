/-!
# Page markers

The buttons of a pager. Up to seven pages are all listed. Beyond that the first page,
the last page and the neighbours of the current one are shown, with one ellipsis for
each run of hidden pages. Page numbers have 32 bits, and a number beyond that is none.
-/

namespace DashboardClient

/-- What a pager shows at one place. -/
inductive PageMarker where
  | page (number : UInt32)
  | ellipsis
  deriving DecidableEq, Repr

namespace PageMarker

/-- All pages are listed when there are at most this many. -/
def fullListMax : UInt32 := 7

/-- The pages from one to `total`. -/
def allPages (total : UInt32) : List UInt32 :=
  (List.range total.toNat).map fun i => UInt32.ofNat (i + 1)

/-- The page nearest to `current` that exists. -/
def clampPage (current total : UInt32) : UInt32 :=
  if current < 1 then 1 else if total < current then total else current

/-- The number after `page`, unless it has more than 32 bits. -/
def next? (page : UInt32) : Option UInt32 :=
  if page < page + 1 then some (page + 1) else none

/-- The page after `page`; the last number has none after it and stands for itself. -/
def nextPage (page : UInt32) : UInt32 :=
  (next? page).getD page

/-- The page before `page`; zero has none before it and stands for itself. -/
def prevPage (page : UInt32) : UInt32 :=
  if page = 0 then 0 else page - 1

/-- The current page and its neighbours, as far as they stand between the first page and
the last one. -/
def innerPages (current total : UInt32) : List UInt32 :=
  let c := clampPage current total
  [prevPage c, c, nextPage c].filter (fun p => 2 ≤ p && p < total)

/-- The pages shown out of more than seven, none of them twice in a row. -/
def shownPages (current total : UInt32) : List UInt32 :=
  (1 :: (innerPages current total ++ [total])).eraseReps

/-- The markers of the pages after `before`, with an ellipsis before a page that does not
follow the one before it. -/
def markersAfter? (before : UInt32) : List UInt32 → Option (List PageMarker)
  | [] => some []
  | p :: rest => do
    let next ← next? before
    let markers ← markersAfter? p rest
    return if p > next then ellipsis :: page p :: markers else page p :: markers

/-- The markers of pages, unless the number after one of them has more than 32 bits. -/
def markers? : List UInt32 → Option (List PageMarker)
  | [] => some []
  | p :: rest => (markersAfter? p rest).map (page p :: ·)

end PageMarker

open PageMarker in
/-- The markers for the page `current` out of `total`, both counted from one, unless a
number has more than 32 bits on the way. -/
def pageMarkers? (current total : UInt32) : Option (List PageMarker) :=
  if total ≤ fullListMax then some ((allPages total).map .page)
  else markers? (shownPages current total)

/-- The markers for the page `current` out of `total`. -/
def pageMarkers (current total : UInt32) : List PageMarker :=
  (pageMarkers? current total).getD []

/-- A pager is only shown when there is more than one page. -/
def shouldPaginate (total : UInt32) : Bool :=
  total > 1

end DashboardClient
