import MarkupTemplate.Page.Engine
import MarkupTemplate.Proofs.Compiler.KeptTag
import MarkupTemplate.Proofs.Compiler.Recompilation
import MarkupTemplate.Proofs.Compiler.TextInsertion
import MarkupTemplate.Proofs.Compiler.Unrolling
import MarkupTemplate.Proofs.Condition.NestingLimit
import MarkupTemplate.Proofs.Page.Loading
import MarkupTemplate.Proofs.Page.LoadHistory
import MarkupTemplate.Proofs.Page.Filling
import MarkupTemplate.Proofs.Page.Agreement
import MarkupTemplate.Proofs.Compiler.ReferencedNames
import MarkupTemplate.Proofs.Compiler.Removal
import MarkupTemplate.Proofs.Compiler.DirectiveText
import MarkupTemplate.Proofs.Compiler.OwnEndTag
import MarkupTemplate.Proofs.Markup.ParsedElements
import MarkupTemplate.Proofs.Condition.Composition
import MarkupTemplate.Proofs.Directive.Substitution
import MarkupTemplate.Proofs.Page.Isolation
import MarkupTemplate.Proofs.Page.PageHistory
import MarkupTemplate.Proofs.Page.RootedFiles
import MarkupTemplate.Proofs.Directive.RepeatGrammar
import MarkupTemplate.Proofs.Directive.RepeatReading
import MarkupTemplate.Proofs.Condition.Spelling
import MarkupTemplate.Proofs.Scope.PathComposition
import MarkupTemplate.Proofs.Scope.LastBinding
import MarkupTemplate.Proofs.Directive.RepeatedNames
import MarkupTemplate.Proofs.Json.Sameness
import MarkupTemplate.Proofs.Condition.StrictEquality
import MarkupTemplate.Proofs.Condition.LooseEquality
import MarkupTemplate.Proofs.Condition.OrderOperators
import MarkupTemplate.Proofs.Condition.ParserErrors
import MarkupTemplate.Proofs.Condition.ErrorOffsets
import MarkupTemplate.Proofs.Condition.UnboundNames
import MarkupTemplate.Proofs.Condition.DigitlessOperands
import MarkupTemplate.Proofs.Compiler.RenderedTree
import MarkupTemplate.Proofs.Markup.CursorProgress
