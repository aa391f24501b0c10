import RouteTemplate.Proofs.Percent
import RouteTemplate.Proofs.TypedRoute
import RouteTemplate.Session
import RouteTemplate.Typed.Route
import RouteTemplate.Typed.Declaration
import RouteTemplate.Typed.Lexer
import RouteTemplate.Naming.Snake
import RouteTemplate.Naming.Identifier
import RouteTemplate.Uri
import RouteTemplate.Load.Declared
import RouteTemplate.Load.Convert
import RouteTemplate.Log
import RouteTemplate.Build
import RouteTemplate.Template.Pattern
import RouteTemplate.Params
import RouteTemplate.IntType
import RouteTemplate.Template.Basic
import RouteTemplate.Text.Quoted
import RouteTemplate.Text.Pieces
import RouteTemplate.Text.Percent
import RouteTemplate.Decimal.Notation
import RouteTemplate.Decimal.Reader
import RouteTemplate.Unicode.Property
import RouteTemplate.Unicode.Cluster
import RouteTemplate.Unicode.LetterCase
import RouteTemplate.Proofs.Confinement
import RouteTemplate.Proofs.Respelling
import RouteTemplate.Proofs.ScalarLoad
import RouteTemplate.Proofs.UriPath
import RouteTemplate.Proofs.UnusableName
import RouteTemplate.Proofs.LoadByName
import RouteTemplate.Template.Regex
import RouteTemplate.Proofs.Acceptance
import RouteTemplate.Proofs.PatternText
import RouteTemplate.Proofs.Missing
import RouteTemplate.Proofs.Precedence
import RouteTemplate.Proofs.LoadByPlace
import RouteTemplate.Proofs.FloatLoad
import RouteTemplate.Proofs.Views
import RouteTemplate.Proofs.UsableNames
import RouteTemplate.Proofs.Unescaping
import RouteTemplate.Proofs.Writing
import RouteTemplate.Proofs.NumberText
