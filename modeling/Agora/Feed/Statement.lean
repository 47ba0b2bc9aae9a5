import Agora.Feed.Query
import Agora.Sql.Statement

/-!
# The statement for a feed

A feed is one statement with a clause for each filter that is asked for. Whatever comes from the
caller is bound to a placeholder. A fragment of text is searched for with a pattern in which
the characters that patterns give a meaning to are escaped.
-/

namespace Agora.Feed

open Sql (Piece Statement)

/-- The fragment with a backslash before every character that has a meaning in patterns. -/
def escapeFragment : List Char → List Char
  | [] => []
  | c :: rest =>
    if c = '\\' ∨ c = '%' ∨ c = '_' then '\\' :: c :: escapeFragment rest
    else c :: escapeFragment rest

/-- The pattern of the texts that hold the fragment somewhere. -/
def likePattern (fragment : List Char) : List Char := '%' :: escapeFragment fragment ++ ['%']

namespace Order

def keyword : Order → String
  | .ascending => "ASC"
  | .descending => "DESC"

end Order

namespace Query

/-- A fragment may stand in the title or in the content, in capitals or not. -/
def searchClause (search : Option String) : Statement :=
  match search with
  | none => []
  | some fragment =>
    let pattern : Sql.Value := .text (String.ofList (likePattern fragment.toList))
    [.text " AND (p.title ILIKE ", .bind pattern, .text " ESCAPE '\\' OR p.content ILIKE ",
      .bind pattern, .text " ESCAPE '\\')"]

def tagClause (tags : List String) : Statement :=
  if tags.isEmpty then [] else [.text " AND p.tags @> ", .bind (.texts tags)]

def earliestClause (bound : Option Time.Instant) : Statement :=
  match bound with
  | none => []
  | some t => [.text " AND p.created_at >= ", .bind (.time t)]

def latestClause (bound : Option Time.Instant) : Statement :=
  match bound with
  | none => []
  | some t => [.text " AND p.created_at <= ", .bind (.time t)]

/-- The posts of the caller and of those it follows. -/
def selectClause (caller : Int) : Statement :=
  [.text ("SELECT p.id, p.user_id, p.title, p.content, p.tags, p.version, " ++
      "p.created_at, p.updated_at, u.username, u.email, COUNT(c.id) AS comments_count " ++
      "FROM posts p JOIN users u ON u.id = p.user_id LEFT JOIN comments c ON c.post_id = p.id " ++
      "WHERE (p.user_id = "),
    .bind (.int caller),
    .text " OR p.user_id IN (SELECT f.user_id FROM followers f WHERE f.follower_id = ",
    .bind (.int caller),
    .text "))"]

/-- Order and page. -/
def pageClause (sort : Order) (limit offset : Int) : Statement :=
  [.text (" GROUP BY p.id, u.id ORDER BY p.created_at " ++ sort.keyword ++ ", p.id " ++
      sort.keyword ++ " LIMIT "),
    .bind (.int limit),
    .text " OFFSET ",
    .bind (.int offset)]

/-- The statement that finds the feed of a caller. -/
def statement (q : Query) (caller : Int) : Statement :=
  selectClause caller ++ searchClause q.search ++ tagClause q.tags ++ earliestClause q.earliest ++
    latestClause q.latest ++ pageClause q.sort q.limit q.offset

end Query

end Agora.Feed
