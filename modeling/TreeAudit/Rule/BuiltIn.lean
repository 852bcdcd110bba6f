import TreeAudit.Rule.Set

-- The rules that apply when none are given.
namespace TreeAudit.RuleSet

-- Rules for Java and Python: functions that decide too much, types with too many methods, handlers
-- that swallow everything, star imports, and a few habits.
def builtIn : RuleSet where
  name := "default"
  description := some "Rules applied when no rule set is given."
  rules := [
    .defined {
      id := "cyclomatic-complexity"
      language := "java"
      message := "Cyclomatic complexity is \x7breportLevel\x7d or more"
      description := some "Methods and constructors with many decision points are hard to test."
      query := "//MethodDeclaration[metric('CYCLO') >= $reportLevel] " ++
        "| //ConstructorDeclaration[metric('CYCLO') >= $reportLevel]"
      properties := [("reportLevel", .number 10)] },
    .defined {
      id := "too-many-methods"
      language := "java"
      message := "Type declares more than \x7bmaxMethods\x7d methods"
      severity := .info
      query := "//ClassDeclaration[metric('NOM') > $maxMethods]"
      properties := [("maxMethods", .number 20)] },
    .defined {
      id := "empty-catch-block"
      language := "java"
      message := "Empty catch block"
      query := "//CatchClause[Block[count(*) = 0]]" },
    .defined {
      id := "star-import"
      language := "java"
      message := "Avoid on-demand imports"
      severity := .info
      query := "//ImportDeclaration[ends-with(@ImportedName, '.*')]" },
    .defined {
      id := "system-println"
      language := "java"
      message := "Use a logger instead of System.out/System.err"
      query := "//MethodInvocation[@MethodName = 'println']" ++
        "[FieldAccess[starts-with(., 'System.')]]" },
    .defined {
      id := "missing-override"
      language := "java"
      message := "equals(Object) should carry @Override"
      query := "//MethodDeclaration[@Name = 'equals' and @Arity = 1 " ++
        "and not(hasAnnotation('Override'))]" },
    .defined {
      id := "python-complex-function"
      language := "python"
      message := "Cyclomatic complexity is \x7breportLevel\x7d or more"
      query := "//FunctionDefinition[metric('CYCLO') >= $reportLevel]"
      properties := [("reportLevel", .number 10)] },
    .defined {
      id := "bare-except"
      language := "python"
      message := "Bare except clause"
      query := "//ExceptClause[count(*) = 1]" },
    .defined {
      id := "python-star-import"
      language := "python"
      message := "Avoid wildcard imports"
      severity := .info
      query := "//ImportFromStatement[WildcardImport]" }]

end TreeAudit.RuleSet
