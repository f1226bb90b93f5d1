/-
The records of the app and how they decode.

`Book`, `Banner` and `Carousel` with the keys their fields are read from
(`CodingKeys`) and the decoding these declarations amount to.  For each record
`Represents` says, key by key, which dictionaries stand for it; decoding accepts
exactly those (`decode_eq_ok_iff`), whatever other keys they hold.
-/
import HolyWater.Json

open Json

namespace HolyWater

structure Book where
  id : Int
  name : String
  summary : String
  genre : String
  coverUrl : String
  likes : String
  quotes : String
  deriving DecidableEq, Repr, Inhabited

namespace Book

inductive CodingKeys where
  | id | name | summary | genre | coverUrl | likes | quotes

def CodingKeys.rawValue : CodingKeys → String
  | id => "id"
  | name => "name"
  | summary => "summary"
  | genre => "genre"
  | coverUrl => "cover_url"
  | likes => "likes"
  | quotes => "quotes"

def decode (container : Dictionary) : Except DecodingError Book := do
  let id ← field container CodingKeys.id.rawValue decodeInt
  let name ← field container CodingKeys.name.rawValue decodeString
  let summary ← field container CodingKeys.summary.rawValue decodeString
  let genre ← field container CodingKeys.genre.rawValue decodeString
  let coverUrl ← field container CodingKeys.coverUrl.rawValue decodeString
  let likes ← field container CodingKeys.likes.rawValue decodeString
  let quotes ← field container CodingKeys.quotes.rawValue decodeString
  return { id, name, summary, genre, coverUrl, likes, quotes }

/-- The dictionary holds every declared field of `b` under its key. -/
structure Represents (m : Dictionary) (b : Book) : Prop where
  id : HoldsInt m "id" b.id
  name : HoldsString m "name" b.name
  summary : HoldsString m "summary" b.summary
  genre : HoldsString m "genre" b.genre
  coverUrl : HoldsString m "cover_url" b.coverUrl
  likes : HoldsString m "likes" b.likes
  quotes : HoldsString m "quotes" b.quotes

theorem decode_eq_ok_iff {m : Dictionary} {b : Book} :
    decode m = .ok b ↔ Represents m b := by
  simp only [decode, bind_eq_ok_iff, field_int_eq_ok_iff, field_string_eq_ok_iff, pure,
    Except.pure, Except.ok.injEq]
  constructor
  · rintro ⟨id, hid, name, hname, summary, hsummary, genre, hgenre, coverUrl, hcoverUrl,
      likes, hlikes, quotes, hquotes, rfl⟩
    exact ⟨hid, hname, hsummary, hgenre, hcoverUrl, hlikes, hquotes⟩
  · rintro ⟨hid, hname, hsummary, hgenre, hcoverUrl, hlikes, hquotes⟩
    exact ⟨_, hid, _, hname, _, hsummary, _, hgenre, _, hcoverUrl, _, hlikes, _, hquotes, rfl⟩

end Book

structure Banner where
  id : Int
  bookId : Int
  cover : String
  deriving DecidableEq, Repr, Inhabited

namespace Banner

inductive CodingKeys where
  | id | bookId | cover

def CodingKeys.rawValue : CodingKeys → String
  | id => "id"
  | bookId => "book_id"
  | cover => "cover"

def decode (container : Dictionary) : Except DecodingError Banner := do
  let id ← field container CodingKeys.id.rawValue decodeInt
  let bookId ← field container CodingKeys.bookId.rawValue decodeInt
  let cover ← field container CodingKeys.cover.rawValue decodeString
  return { id, bookId, cover }

/-- The dictionary holds every declared field of `b` under its key. -/
structure Represents (m : Dictionary) (b : Banner) : Prop where
  id : HoldsInt m "id" b.id
  bookId : HoldsInt m "book_id" b.bookId
  cover : HoldsString m "cover" b.cover

theorem decode_eq_ok_iff {m : Dictionary} {b : Banner} :
    decode m = .ok b ↔ Represents m b := by
  simp only [decode, bind_eq_ok_iff, field_int_eq_ok_iff, field_string_eq_ok_iff, pure,
    Except.pure, Except.ok.injEq]
  constructor
  · rintro ⟨id, hid, bookId, hbookId, cover, hcover, rfl⟩
    exact ⟨hid, hbookId, hcover⟩
  · rintro ⟨hid, hbookId, hcover⟩
    exact ⟨_, hid, _, hbookId, _, hcover, rfl⟩

end Banner

structure Carousel where
  id : Int
  name : String
  author : String
  summary : String
  genre : String
  coverUrl : String
  views : String
  likes : String
  quotes : String
  deriving DecidableEq, Repr, Inhabited

namespace Carousel

inductive CodingKeys where
  | id | name | author | summary | genre | coverUrl | views | likes | quotes

def CodingKeys.rawValue : CodingKeys → String
  | id => "id"
  | name => "name"
  | author => "author"
  | summary => "summary"
  | genre => "genre"
  | coverUrl => "cover_url"
  | views => "views"
  | likes => "likes"
  | quotes => "quotes"

def decode (container : Dictionary) : Except DecodingError Carousel := do
  let id ← field container CodingKeys.id.rawValue decodeInt
  let name ← field container CodingKeys.name.rawValue decodeString
  let author ← field container CodingKeys.author.rawValue decodeString
  let summary ← field container CodingKeys.summary.rawValue decodeString
  let genre ← field container CodingKeys.genre.rawValue decodeString
  let coverUrl ← field container CodingKeys.coverUrl.rawValue decodeString
  let views ← field container CodingKeys.views.rawValue decodeString
  let likes ← field container CodingKeys.likes.rawValue decodeString
  let quotes ← field container CodingKeys.quotes.rawValue decodeString
  return { id, name, author, summary, genre, coverUrl, views, likes, quotes }

/-- The dictionary holds every declared field of `c` under its key. -/
structure Represents (m : Dictionary) (c : Carousel) : Prop where
  id : HoldsInt m "id" c.id
  name : HoldsString m "name" c.name
  author : HoldsString m "author" c.author
  summary : HoldsString m "summary" c.summary
  genre : HoldsString m "genre" c.genre
  coverUrl : HoldsString m "cover_url" c.coverUrl
  views : HoldsString m "views" c.views
  likes : HoldsString m "likes" c.likes
  quotes : HoldsString m "quotes" c.quotes

theorem decode_eq_ok_iff {m : Dictionary} {c : Carousel} :
    decode m = .ok c ↔ Represents m c := by
  simp only [decode, bind_eq_ok_iff, field_int_eq_ok_iff, field_string_eq_ok_iff, pure,
    Except.pure, Except.ok.injEq]
  constructor
  · rintro ⟨id, hid, name, hname, author, hauthor, summary, hsummary, genre, hgenre,
      coverUrl, hcoverUrl, views, hviews, likes, hlikes, quotes, hquotes, rfl⟩
    exact ⟨hid, hname, hauthor, hsummary, hgenre, hcoverUrl, hviews, hlikes, hquotes⟩
  · rintro ⟨hid, hname, hauthor, hsummary, hgenre, hcoverUrl, hviews, hlikes, hquotes⟩
    exact ⟨_, hid, _, hname, _, hauthor, _, hsummary, _, hgenre, _, hcoverUrl, _, hviews,
      _, hlikes, _, hquotes, rfl⟩

end Carousel

end HolyWater
