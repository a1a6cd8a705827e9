import FeedReader.Color
import FeedReader.Command.Kind
import FeedReader.Url

/-!
# Commands

* `Command`: a command with its arguments. Commands with arguments of one shape share a
  constructor, which then holds the kind;
* `Command.kind`, `Command.written`: what the command line of a command consists of;
* `Command.text`: the command line, and `Command.describe`: the command in words;
* `Command.unwrapIn`: what a command means in a panel.
-/

namespace FeedReader

/-- A command with its arguments. -/
inductive Command
  | plain (kind : Command.Kind) (shape : kind.shape = .nothing)
  | focus (panel : Panel)
  | within (panel : Panel) (command : Command)
  | confirm (command : Command)
  | setRead (target : ActionTarget) (scope : ActionScope)
  | onScope (kind : Command.Kind) (shape : kind.shape = .scope) (scope : ActionScope)
  | onTag (kind : Command.Kind) (shape : kind.shape = .tagScope) (tag : Text) (scope : ActionScope)
  | addFeed (url : Url) (name : Option Text)
  | changeFeedUrl (url : Url)
  | paste (position : PastePosition)
  | named (kind : Command.Kind) (shape : kind.shape = .text) (text : Text)
  | changeTagColor (color : Color)
  | addTag (tag : Text) (color : Option Color)
  | expandCategories (scope : ArticleScope)
  | showArticles (target : ActionTarget) (scope : ArticleScope)
  | onQuery (kind : Command.Kind) (shape : kind.shape = .query) (query : Query)
  | search (term : Option Query.SearchTerm)
  | sort (order : SortOrder)
  | share (target : Text)
  | onFile (kind : Command.Kind) (shape : kind.shape = .path) (path : Text)
  | logout (confirmation : Text)
  | commandLine (content : Option Text)
  deriving DecidableEq

namespace Command

/-- The kind of a command. -/
def kind : Command → Kind
  | plain k _ => k
  | focus _ => .focus
  | within _ _ => .within
  | confirm _ => .confirm
  | setRead _ _ => .setRead
  | onScope k _ _ => k
  | onTag k _ _ _ => k
  | addFeed _ _ => .addFeed
  | changeFeedUrl _ => .changeFeedUrl
  | paste _ => .paste
  | named k _ _ => k
  | changeTagColor _ => .changeTagColor
  | addTag _ _ => .addTag
  | expandCategories _ => .expandCategories
  | showArticles _ _ => .showArticles
  | onQuery k _ _ => k
  | search _ => .search
  | sort _ => .sort
  | share _ => .share
  | onFile k _ _ => k
  | logout _ => .logout
  | commandLine _ => .commandLine

/-- The command line of a command. -/
def text : Command → Text
  | plain k _ => k.line []
  | focus p => Kind.line .focus [p.keyword]
  | within p c => Kind.line .within [p.keyword, c.text]
  | confirm c => Kind.line .confirm [c.text]
  | setRead target scope => Kind.line .setRead [target.keyword, scope.text]
  | onScope k _ scope => k.line [scope.text]
  | onTag k _ tag scope => k.line [tag, scope.text]
  | addFeed url name => Kind.line .addFeed [url.text, name]
  | changeFeedUrl url => Kind.line .changeFeedUrl [url.text]
  | paste p => Kind.line .paste [p.keyword]
  | named k _ t => k.line [t]
  | changeTagColor c => Kind.line .changeTagColor [c.text]
  | addTag tag color => Kind.line .addTag [tag, color.map (·.text)]
  | expandCategories scope => Kind.line .expandCategories [scope.keyword]
  | showArticles target scope => Kind.line .showArticles [target.keyword, scope.keyword]
  | onQuery k _ q => k.line [q.text]
  | search term => Kind.line .search [term.map (·.text)]
  | sort o => Kind.line .sort [o.text]
  | share target => Kind.line .share [target]
  | onFile k _ path => k.line [path]
  | logout confirmation => Kind.line .logout [confirmation]
  | commandLine content => Kind.line .commandLine [content]

/-- The articles that showing a scope leaves. -/
def shownArticles : ArticleScope → Text
  | .all => "all"
  | .unread => "only unread"
  | .marked => "only marked"

/-- The nodes that expanding the categories of a scope opens. -/
def expandedNodes : ArticleScope → Text
  | .all => "nodes"
  | .unread => "categories with unread items"
  | .marked => "categories with marked items"

/-- A command in words. -/
def describe : Command → Text
  | plain k _ => k.phrase []
  | focus p => Kind.phrase .focus [p.label]
  | within p c => Kind.phrase .within [p.label, c.describe]
  | confirm c => Kind.phrase .confirm [c.describe]
  | setRead target scope => Kind.phrase .setRead [target.detail, scope.describe]
  | onScope k _ scope => k.phrase [scope.describe]
  | onTag k _ tag scope => k.phrase [tag, scope.describe]
  | addFeed url name => Kind.phrase .addFeed [url.text, name]
  | changeFeedUrl url => Kind.phrase .changeFeedUrl [url.text]
  | paste p => Kind.phrase .paste [p.keyword]
  | named k _ t => k.phrase [t]
  | changeTagColor c => Kind.phrase .changeTagColor [c.text]
  | addTag tag color => Kind.phrase .addTag [tag, color.map (·.text)]
  | expandCategories scope => Kind.phrase .expandCategories [expandedNodes scope]
  | showArticles target scope => Kind.phrase .showArticles [target.keyword, shownArticles scope]
  | onQuery k _ q => k.phrase [q.text]
  | search term => Kind.phrase .search [term.map (·.text)]
  | sort o => Kind.phrase .sort [o.text]
  | share target => Kind.phrase .share [target]
  | onFile k _ path => k.phrase [path]
  | logout confirmation => Kind.phrase .logout [confirmation]
  | commandLine content => Kind.phrase .commandLine [content]

/-- What a command means in a panel: the inner command if it is meant for this panel, nothing if it
is meant for another one, and the command itself if it is meant for none. -/
def unwrapIn (panel : Panel) : Command → Option Command
  | within p c => if p = panel then some c else none
  | c => some c

/-- The command that any `confirm` and `in` around it lead to. -/
def innermost : Command → Command
  | within _ c => c.innermost
  | confirm c => c.innermost
  | c => c

end Command

end FeedReader
