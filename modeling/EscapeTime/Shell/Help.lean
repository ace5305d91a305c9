namespace EscapeTime.Shell

/-!
# What the command line says about itself
-/

def version : String := "1.0.0"

/-- The text that explains the use of the program. -/
def help : String := "
fractalc - escape-time fractal expression compiler

USAGE:
    fractalc                                   Start REPL (interactive mode)
    fractalc -e \"<expr>\"                       Print the kernel for an expression
    fractalc --ast \"<expr>\"                    Print the expression tree as JSON
    fractalc --render <config.json> <out.ppm>  Render a fractal to a PPM image
    fractalc --help, -h                        Show this help
    fractalc --version, -v                     Show version

OPTIONS:
    --compat                 Silently skip unrecognized fragments (-e and REPL)

REPL COMMANDS:
    :help, :h                Show help
    :quit, :q, :exit         Exit REPL
    :ast <expr>              Show expression tree
    :json <expr>             Show expression tree as JSON
    :kernel <expr>           Show kernel text (same as a bare line)
    :eval <expr> <z> <c>     Evaluate one step, numbers as re,im
    :strict                  Reject unrecognized fragments (default)
    :compat                  Silently skip unrecognized fragments

EXAMPLES:
    fractalc -e \"z^2 + c\"
    fractalc --ast \"sin(z) * c\"
    fractalc --render mandelbrot.json mandelbrot.ppm

SYNTAX:
    z^2 + c                  ; operators + - * / ^
    sin(z) * c               ; real imag abs arg sin cos sh ch exp ln conj
    (z - 1) / (z + i)        ; parentheses, imaginary unit i and -i
"

end EscapeTime.Shell
