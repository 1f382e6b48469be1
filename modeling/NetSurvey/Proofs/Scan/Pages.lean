import Mathlib.Data.List.Forall2
import NetSurvey.Proofs.Number.Grammar
import NetSurvey.Proofs.Scan.Findings

/-!
# The pages that a scan finds

A scan of a web server makes one request for each path of its list, to the base and the path with
one slash between them (`Url.Joins`). What it lists is what these requests are answered with, path
by path (`Listing`): a page that is there is listed with its status and its size, and nothing else
is listed. The size is the number that the server names, if what it names is one (`Page.HasSize`).

The order in which the requests are made and in which the pages are listed is left open, and nothing
but that.
-/

namespace NetSurvey

/-! ### The URL of a page -/

namespace Text

end Text

namespace Url

end Url

/-! ### What is known about a page -/

open Probe

namespace Page

/-- A page is there: its status is a success, or one of those that show that something is there. -/
def IsThere (p : Page) : Prop :=
  200 ≤ p.status ∧ p.status ≤ 299 ∨ p.status ∈ foundStatuses

instance (p : Page) : Decidable p.IsThere :=
  inferInstanceAs (Decidable (_ ∨ _))

/-- The size under which a page is listed. A server names it in a text; only a server that is
given by a script can name anything else. -/
inductive HasSize (p : Page) : Int → Prop
  | absent (h : p.contentLength = none) : HasSize p (-1)
  | denoted {t : Text} {n : Int} (h : p.contentLength = some (.text t))
    (hn : Integer.Denotes t n) : HasSize p n
  | unread {t : Text} (h : p.contentLength = some (.text t)) (hn : ∀ n, ¬Integer.Denotes t n) :
    HasSize p (-1)
  | scripted {d : Datum} {n : Int} (h : p.contentLength = some d) (hd : ∀ t, d ≠ .text t)
    (hn : pageSize p = .ok n) : HasSize p n

/-- What a text says about the size of a page is read as an integer, or not at all. -/
theorem pageSize_of_text {p : Page} {t : Text} (h : p.contentLength = some (.text t)) :
    pageSize p = .ok ((Integer.read? t).getD (-1)) := by
  rw [pageSize, h]
  simp only [Datum.toInteger, Integer.read?]
  cases Integer.read t <;> rfl

theorem pageSize_eq_ok_iff {p : Page} {n : Int} : pageSize p = .ok n ↔ p.HasSize n := by
  constructor
  · intro hsize
    rcases hlength : p.contentLength with _ | d
    · rw [pageSize, hlength] at hsize
      obtain rfl := Except.ok.inj hsize
      exact .absent hlength
    by_cases hd : ∃ t, d = .text t
    · obtain ⟨t, rfl⟩ := hd
      rw [pageSize_of_text hlength] at hsize
      obtain rfl := Except.ok.inj hsize
      cases hread : Integer.read? t with
      | none =>
        refine .unread hlength fun n hn => ?_
        cases hread.symm.trans (Integer.read?_of_denotes hn)
      | some n => exact .denoted hlength (Integer.denotes_of_read? hread)
    · exact .scripted hlength (not_exists.mp hd) hsize
  · rintro (h | ⟨h, hn⟩ | ⟨h, hn⟩ | ⟨-, -, hn⟩)
    · rw [pageSize, h]
    · rw [pageSize_of_text h, Integer.read?_of_denotes hn, Option.getD_some]
    · rw [pageSize_of_text h, Option.eq_none_iff_forall_ne_some.mpr fun n hread =>
        hn n (Integer.denotes_of_read? hread), Option.getD_none]
    · exact hn

theorem HasSize.unique {p : Page} {m n : Int} (hm : p.HasSize m) (hn : p.HasSize n) : m = n :=
  Except.ok.inj ((pageSize_eq_ok_iff.mpr hm).symm.trans (pageSize_eq_ok_iff.mpr hn))

end Page

/-! ### One request -/

namespace Probe

open Activity

variable {w : World} {base path userAgent : Text} {timeout : Timeout} {session : Bool}
  {start : Float} {page : Page}

end Probe

namespace Scan

open Schedule

/-! ### What is listed -/

/-- The entry of a page in the list of a scan. -/
def pageEntry (path : Text) (status size : Int) : Fields :=
  [("path", .text path), ("status_code", .int status), ("found", .bool true), ("size", .int size)]

/-- What is listed for a path, by how its request is answered: a page that is there, with its status
and its size. Nothing is listed if the request fails, if the page is not there, or if its size is
beyond reading, which takes that it is named in something else than a text. -/
inductive Listing (path : Text) : Except Failure Page → Option Fields → Prop
  | listed {page : Page} {size : Int} (hthere : page.IsThere) (hsize : page.HasSize size) :
    Listing path (.ok page) (some (pageEntry path page.status size))
  | failed (e : Failure) : Listing path (.error e) none
  | missing {page : Page} (hthere : ¬page.IsThere) : Listing path (.ok page) none
  | unsized {page : Page} {d : Datum} (hlength : page.contentLength = some d)
    (hd : ∀ t, d ≠ .text t) (hsize : ∀ size, ¬page.HasSize size) : Listing path (.ok page) none

theorem Listing.unique {path : Text} {answer : Except Failure Page} {a b : Option Fields}
    (ha : Listing path answer a) (hb : Listing path answer b) : a = b := by
  cases ha with
  | failed e =>
    cases hb
    rfl
  | missing hthere =>
    cases hb with
    | listed hthere' => exact absurd hthere' hthere
    | missing | unsized => rfl
  | unsized _ _ hnone =>
    cases hb with
    | listed _ hsize => exact absurd hsize (hnone _)
    | missing | unsized => rfl
  | listed hthere hsize =>
    cases hb with
    | listed _ hsize' => rw [hsize.unique hsize']
    | missing hnot => exact absurd hthere hnot
    | unsized _ _ hnone => exact absurd hsize (hnone _)

variable {w : World} {scanner : Scanner} {base path : Text}

section Directory

variable {file : Option WordFile} {paths : List Text}

variable (hpaths : Survey.pathsOf scanner.settings (.text base) file = .ok paths) (order : Order)
  (w : World) (watch : Stopwatch)
include hpaths

end Directory

end Scan

end NetSurvey
