/-!
# The table of character names

Names that are not formed by a rule, in the order of their code points. An entry
starts with a digit in base thirty-six, which tells how much of the name before
it to keep; a letter in lower case or a sign abbreviates a frequent fragment. An
entry that starts with an at sign gives the code point of the next name in
hexadecimal.
-/

namespace QueryLint.Text

/-- What a character of an entry stands for. -/
def nameFragment (c : Char) : String :=
  match c with
  | 'a' => "L LETTER "
  | 'b' => " WITH "
  | 'c' => "CAPITA"
  | 'd' => "AL"
  | 'e' => "AR"
  | 'f' => "IGHT"
  | 'g' => "IN"
  | 'h' => " FORM"
  | 'i' => "LE"
  | 'j' => "ER"
  | 'k' => "AN"
  | 'l' => " ARROW"
  | 'm' => " S"
  | 'n' => "ON"
  | 'o' => " ABOVE"
  | 'p' => " ISOLATED FORM"
  | 'q' => "SMALL LETTER "
  | 'r' => "D "
  | 's' => "EN"
  | 't' => "TI"
  | 'u' => "WARDS"
  | 'v' => "RE"
  | 'w' => "HA"
  | 'x' => " SIGN"
  | 'y' => "E "
  | 'z' => "TH"
  | '!' => "BELOW"
  | '%' => "DOUBLE"
  | '&' => "ING "
  | '*' => "LEFT"
  | '+' => "RA"
  | ',' => "LETTER "
  | '.' => "LA"
  | '<' => "HE"
  | '=' => "SI"
  | '>' => "TA"
  | '?' => " AND "
  | '^' => "OR"
  | '_' => "CIRC"
  | '~' => "DOT"
  | '|' => " SYMBOL"
  | c => c.toString

/-- The names in the order of their code points, entries separated by semicolons. -/
def nameTable : List String :=
  ["@20;0SPACE;0EXC.MAtn MeK;0QUO>tn MeK;0NUMBjx;0DOLLex;0PjCsTx;0AMPjSkD;1POSTROP<;0* PeszE=S;
    0Rf PeszE=S;0ASTjISK;0PLUSx;0COMMA;0HYPHs-MgUS;0FULLmTOP;0SOLIDUS;0DIGIT ZjO;6nE;6TWO;7HvE;
    6FOUR;7IVE;6=X;7EVs;6Ef;6NgE;0COLn;0SEMICOLn;0iSS-zkx;0EQUdSx;0GvATj-zkx;0QUEStn MeK;
    0COMMjCId AT;0.Tg caA;LB;LC;LD;LE;LF;LG;LH;LI;LJ;LK;LL;LM;LN;LO;LP;LQ;LR;LS;LT;LU;LV;LW;LX;
    LY;LZ;1EFTmQUeyB+CKET;0vVjSEmOLIDUS;1fmQUeyB+CKET;0_UMFiX ACCsT;0LOW LgE;0G+VyACCsT;
    0.TgmMdaA;JB;JC;JD;JE;JF;JG;JH;JI;JJ;JK;JL;JM;JN;JO;JP;JQ;JR;JS;JT;JU;JV;JW;JX;JY;JZ;
    1EFT CURLY B+CKET;0VjtCd LgE;0Rf CURLY B+CKET;0tLDE;@A0;0NO-BvAKmPACE;0gVjTErEXC.MAtn MeK;
    0CsTx;0POUNDx;0CURRsCYx;0Ysx;0BROKs Be;0SECtnx;0DIAjE=S;0COPYRfx;0FEMggy^Dgd gDICAT^;
    0*-POgT&% kGi QUO>tn MeK;0NOTx;0SOFT HYPHs;0vGISTjEDx;0MACRn;0DEGvEx;0PLUS-MgUSx;
    0SUPjSCRIPT TWO;DHvE;0ACUTyACCsT;0MICROx;0PILCROWx;0MIDDi ~;0CEDIL.;0SUPjSCRIPT nE;
    0MASCULgy^Dgd gDICAT^;0Rf-POgT&% kGi QUO>tn MeK;0VULGe F+Ctn nyQUeTj;KHdF;GzvyQUeTjS;
    0gVjTErQUEStn MeK;0.Tg caAbG+VE;SACUTE;S_UMFiX;StLDE;SDIAjE=S;SRgGo;ME;LCbCEDIL.;LEbG+VE;
    SACUTE;S_UMFiX;SDIAjE=S;LIbG+VE;SACUTE;S_UMFiX;SDIAjE=S;LEz;LNbtLDE;LObG+VE;SACUTE;S_UMFiX;
    StLDE;SDIAjE=S;0MULtPLICAtnx;0.Tg caObSTROKE;LUbG+VE;SACUTE;S_UMFiX;SDIAjE=S;LYbACUTE;Lz^N;
    6qSHePm;JAbG+VE;QACUTE;Q_UMFiX;QtLDE;QDIAjE=S;QRgGo;KE;JCbCEDIL.;JEbG+VE;QACUTE;Q_UMFiX;
    QDIAjE=S;JIbG+VE;QACUTE;Q_UMFiX;QDIAjE=S;JEz;JNbtLDE;JObG+VE;QACUTE;Q_UMFiX;QtLDE;QDIAjE=S;
    0DIVI=nx;0.TgmMdaObSTROKE;JUbG+VE;QACUTE;Q_UMFiX;QDIAjE=S;JYbACUTE;Jz^N;JYbDIAjE=S;
    6caAbMACRn;6qAbMACRn;6caAbBvVE;6qAbBvVE;6caAbOGnEK;6qAbOGnEK;6caCbACUTE;6qCbACUTE;
    6caCb_UMFiX;6qCb_UMFiX;6caCb~o;6qCb~o;6caCbCen;6qCbCen;6caDbCen;6qDbCen;6caDbSTROKE;
    6qDbSTROKE;6caEbMACRn;6qEbMACRn;6caEbBvVE;6qEbBvVE;6caEb~o;6qEb~o;6caEbOGnEK;6qEbOGnEK;
    6caEbCen;6qEbCen;6caGb_UMFiX;6qGb_UMFiX;6caGbBvVE;6qGbBvVE;6caGb~o;6qGb~o;6caGbCEDIL.;
    6qGbCEDIL.;6caHb_UMFiX;6qHb_UMFiX;6caHbSTROKE;6qHbSTROKE;6caIbtLDE;6qIbtLDE;6caIbMACRn;
    6qIbMACRn;6caIbBvVE;6qIbBvVE;6caIbOGnEK;6qIbOGnEK;6caIb~o;6q~iSS I;6cL LIGATUv IJ;
    6SMdL LIGATUv IJ;6caJb_UMFiX;6qJb_UMFiX;6caKbCEDIL.;6qKbCEDIL.;K+;6caLbACUTE;6qLbACUTE;
    6caLbCEDIL.;6qLbCEDIL.;6caLbCen;6qLbCen;6caLbMIDDi ~;6qLbMIDDi ~;6caLbSTROKE;6qLbSTROKE;
    6caNbACUTE;6qNbACUTE;6caNbCEDIL.;6qNbCEDIL.;6caNbCen;6qNbCen;LPvCEDErBY APOSTROP<;6casG;
    6qsG;6caObMACRn;6qObMACRn;6caObBvVE;6qObBvVE;6caOb% ACUTE;6qOb% ACUTE;6cL LIGATUv OE;
    6SMdL LIGATUv OE;6caRbACUTE;6qRbACUTE;6caRbCEDIL.;6qRbCEDIL.;6caRbCen;6qRbCen;6caSbACUTE;
    6qSbACUTE;6caSb_UMFiX;6qSb_UMFiX;6caSbCEDIL.;6qSbCEDIL.;6caSbCen;6qSbCen;6caTbCEDIL.;
    6qTbCEDIL.;6caTbCen;6qTbCen;6caTbSTROKE;6qTbSTROKE;6caUbtLDE;6qUbtLDE;6caUbMACRn;6qUbMACRn;
    6caUbBvVE;6qUbBvVE;6caUbRgGo;6qUbRgGo;6caUb% ACUTE;6qUb% ACUTE;6caUbOGnEK;6qUbOGnEK;
    6caWb_UMFiX;6qWb_UMFiX;6caYb_UMFiX;6qYb_UMFiX;6caYbDIAjE=S;LZbACUTE;6qZbACUTE;6caZb~o;
    6qZb~o;6caZbCen;6qZbCen;JLnGm;JBbSTROKE;6caBbHOOK;STOPBe;6qBbTOPBe;6caTnEmIX;6qTnEmIX;
    6caOPs O;LCbHOOK;6qCbHOOK;6caAFRICk D;LDbHOOK;STOPBe;6qDbTOPBe;JTURNErDEL>;6cavVjSErE;
    LSCHWA;LOPs E;LFbHOOK;6qFbHOOK;6caGbHOOK;MAMMA;6qHV;6caIO>;MbSTROKE;LKbHOOK;6qKbHOOK;JLbBe;
    KAMBDAbSTROKE;6caTURNErM;LNb* HOOK;6qNbLnG Rf iG;6caObMIDDi tLDE;SH^N;6qObH^N;6caOI;6qOI;
    6caPbHOOK;6qPbHOOK;6,YR;6caTnyTWO;6qTnyTWO;6caESH;6,vVjSErESH LOOP;6qTbPdATd HOOK;6caTbHOOK;
    6qTbHOOK;6caTbvTROFiX HOOK;LUbH^N;6qUbH^N;6caUP=Ln;LVbHOOK;LYbHOOK;6qYbHOOK;6caZbSTROKE;
    6qZbSTROKE;6caEZH;O vVjSED;6qEZH vVjSED;NWIz >IL;6,TWObSTROKE;6caTnyFIVE;6qTnyFIVE;
    6,gVjTErGLOTTdmTOPbSTROKE;DWYNN;DDsTd CLICK;D.Tjd CLICK;DdVEOLe CLICK;DvTROFiX CLICK",
   "6caDZbCen;MbqZbCen;6qDZbCen;6caLJ;MbqJ;6qLJ;6caNJ;MbqJ;6qNJ;6caAbCen;6qAbCen;6caIbCen;
    6qIbCen;6caObCen;6qObCen;6caUbCen;6qUbCen;6caUbDIAjE=S?MACRn;6qUbDIAjE=S?MACRn;
    6caUbDIAjE=S?ACUTE;6qUbDIAjE=S?ACUTE;6caUbDIAjE=S?Cen;6qUbDIAjE=S?Cen;6caUbDIAjE=S?G+VE;
    6qUbDIAjE=S?G+VE;JTURNErE;6caAbDIAjE=S?MACRn;6qAbDIAjE=S?MACRn;6caAb~o?MACRn;6qAb~o?MACRn;
    6caAEbMACRn;6qAEbMACRn;6caGbSTROKE;6qGbSTROKE;6caGbCen;6qGbCen;6caKbCen;6qKbCen;6caObOGnEK;
    6qObOGnEK;6caObOGnEK?MACRn;6qObOGnEK?MACRn;6caEZHbCen;6qEZHbCen;JJbCen;6caDZ;MbqZ;6qDZ;
    6caGbACUTE;6qGbACUTE;6caHWAIR;LWYNN;LNbG+VE;6qNbG+VE;6caAbRgGo?ACUTE;6qAbRgGo?ACUTE;
    6caAEbACUTE;6qAEbACUTE;6caObSTROKykrACUTE;6qObSTROKykrACUTE;6caAb% G+VE;6qAb% G+VE;
    6caAbgVjTErBvVE;6qAbgVjTErBvVE;6caEb% G+VE;6qEb% G+VE;6caEbgVjTErBvVE;6qEbgVjTErBvVE;
    6caIb% G+VE;6qIb% G+VE;6caIbgVjTErBvVE;6qIbgVjTErBvVE;6caOb% G+VE;6qOb% G+VE;
    6caObgVjTErBvVE;6qObgVjTErBvVE;6caRb% G+VE;6qRb% G+VE;6caRbgVjTErBvVE;6qRbgVjTErBvVE;
    6caUb% G+VE;6qUb% G+VE;6caUbgVjTErBvVE;6qUbgVjTErBvVE;6caSbCOMMA !;6qSbCOMMA !;6caTbCOMMA !;
    6qTbCOMMA !;6caYOGH;6qYOGH;6caHbCen;6qHbCen;6caNbLnG Rf iG;6qDbCURL;6caOU;6qOU;6caZbHOOK;
    6qZbHOOK;6caAb~o;6qAb~o;6caEbCEDIL.;6qEbCEDIL.;6caObDIAjE=S?MACRn;6qObDIAjE=S?MACRn;
    6caObtLDykrMACRn;6qObtLDykrMACRn;6caOb~o;6qOb~o;6caOb~o?MACRn;6qOb~o?MACRn;6caYbMACRn;
    6qYbMACRn;JLbCURL;JNbCURL;JTbCURL;J~iSS J;KB DIG+PH;JQP DIG+PH;6caAbSTROKE;LCbSTROKE;
    6qCbSTROKE;6caLbBe;LTbDIAGndmTROKE;6qSbSWASH >IL;JZbSWASH >IL;6caGLOTTdmTOP;6qGLOTTdmTOP;
    6caBbSTROKE;LU Be;LTURNErV;LEbSTROKE;6qEbSTROKE;6caJbSTROKE;6qJbSTROKE;6caSMdL QbHOOK >IL;
    6qQbHOOK >IL;6caRbSTROKE;6qRbSTROKE;6caYbSTROKE;6qYbSTROKE;JTURNErA;JdPw;JTURNErdPw;JBbHOOK;
    JOPs O;JCbCURL;JDb>IL;QHOOK;JvVjSErE;JSCHWA;ObHOOK;JOPs E;JvVjSErOPs E;YbHOOK;
    JCLOSErvVjSErOPs E;J~iSS JbSTROKE;JGbHOOK;JSCRIPT G;6iTTjmMdL cL G;6qGAMMA;J+MS H^N;
    JTURNErH;JHbHOOK;KsGbHOOK;JIbSTROKE;KO>;6iTTjmMdL cL I;6qLbMIDDi tLDE;QBELT;QvTROFiX HOOK;
    KEZH;JTURNErM;RbLnG iG;JMbHOOK;JNb* HOOK;QvTROFiX HOOK;6iTTjmMdL cL N;6qBevrO;
    6iTTjmMdL cL OE;6qCLOSErOMEGA;JPHI;JTURNErR;RbLnG iG;XHOOK;JRbLnG iG;Q>IL;QFISHHOOK;
    KEVjSErRbFISHHOOK;6iTTjmMdL cL R;RgVjTErR;6qSbHOOK;JESH;J~iSS JbSTROKykrHOOK;
    JSQUAT vVjSErESH;JESHbCURL;JTURNErT;KbvTROFiX HOOK;JU Be;KP=Ln;JVbHOOK;JTURNErV;QW;QY;
    6iTTjmMdL cL Y;6qZbvTROFiX HOOK;QCURL;JEZH;MbCURL;6,GLOTTdmTOP;DPHeYNGEd VOICErFRICAtVE;
    DgVjTErGLOTTdmTOP;DSTvTC<rC;DBI.BId CLICK;DSMdL cL B;6qCLOSErOPs E;6iTTjmMdL cL GbHOOK;RH;
    6qJbCROSSED->IL;JTURNErK;6iTTjmMdL cL L;6qQbHOOK;6,GLOTTdmTOPbSTROKE;
    DvVjSErGLOTTdmTOPbSTROKE;6qDZ DIG+PH;KEZH DIG+PH;KZ DIG+PHbCURL;JTS DIG+PH;KESH DIG+PH;
    KC DIG+PHbCURL;JFsG DIG+PH;JLS DIG+PH;KZ DIG+PH;6,BI.BId PjCUS=VE;FDsTd PjCUS=VE;
    6qTURNErHbFISHHOOK;ZSHHOOK?>IL;0MODIFIj iTTjmMdL H;NbHOOK;MJ;MR;MTURNErR;UbHOOK;McL gVjTErR;
    MW;MY;GPRIME;G% PRIME;GTURNErCOMMA;GAPOSTROP<;GvVjSErCOMMA;Hf HdF RgG;G* HdF RgG;
    GGLOTTdmTOP;GvVjSErGLOTTdmTOP;G*l<AD;GRfl<AD;GUPl<AD;GDOWNl<AD;G_UMFiX ACCsT;0Cen;
    0MODIFIj ,VjtCd LgE;GMACRn;GACUTyACCsT;GG+VyACCsT;GLOW VjtCd LgE;KMACRn;KG+VyACCsT;
    KACUTyACCsT;GTRIkGULe COLn;GHdF TRIkGULe COLn;GCsTvrRf HdF RgG;O* HdF RgG;GUP >CK;GDOWN >CK;
    GPLUSx;GMgUSx;0BvVE;0~o;0RgGo;0OGnEK;0SMdL tLDE;0% ACUTyACCsT;0MODIFIj ,RHOtC HOOK;
    GCROSS ACCsT;GSMdL GAMMA;ML;MS;MX;MvVjSErGLOTTdmTOP;GEXT+-HIGH TnyBe;GHIGH TnyBe;GMIrTnyBe;
    GLOW TnyBe;GEXT+-LOW TnyBe;GYg DEPeT&TnyMeK;HkG DEPeT&TnyMeK;GVOICgG;GUNASPI+TED;
    G% APOSTROP<;GLOW DOWNl<AD;KUPl<AD;K*l<AD;KRfl<AD;MNG;GMIDDi G+VyACCsT;N% G+VyACCsT",
   "UACUTyACCsT;GLOW tLDE;G+ISErCOLn;GBEGg HIGH TnE;GsrHIGH TnE;GBEGg LOW TnE;GsrLOW TnE;GS<LF;
    GOPsm<LF;GLOW *l;0COMBg&G+VyACCsT;AACUTyACCsT;A_UMFiX ACCsT;AtLDE;AMACRn;AOVjLgE;ABvVE;A~o;
    BIAjE=S;AHOOKo;ARgGo;A% ACUTyACCsT;ACen;AVjtCd LgEo;A% VjtCd LgEo;HG+VyACCsT;ACkD+BgDU;
    AgVjTErBvVE;ATURNErCOMMAo;ACOMMAo;AvVjSErCOMMAo;ACOMMAo Rf;AG+VyACCsT !;AACUTyACCsT !;
    A* >CK !;ARf >CK !;A* kGio;AH^N;A* HdF R&!;AUP >CK !;ADOWN >CK !;APLUSx !;AMgUSx !;
    APdATdIZErHOOK !;AvTROFiX HOOK !;A~ !;BIAjE=S !;AR&!;ACOMMA !;BEDIL.;AOGnEK;AVjtCd Lgy!;
    ABRIDGy!;AgVjTEr% eCH !;ACen !;BIRCUMFiX ACCsT !;ABvVy!;AgVjTErBvVy!;AtLDy!;AMACRn !;
    ALOW LgE;A% LOW LgE;AtLDyOVj.Y;ASH^TmTROKyOVj.Y;ALnGmTROKyOVj.Y;ASH^TmOLIDUS OVj.Y;
    ALnGmOLIDUS OVj.Y;ARf HdF R&!;AgVjTErBRIDGy!;ASQUey!;BEAGULL !;AXo;AVjtCd tLDE;A% OVjLgE;
    AG+VyTnyMeK;AACUTyTnyMeK;AGvEK PjISPOMsI;GK^nIS;GDIdYtKA TnOS;GYPOGEG+MMsI;ABRIDGEo;
    AEQUdSx !;A% VjtCd Lgy!;A* kGi !;ANOT tLDEo;AHOMOzEtCo;AdMOST EQUd TOo;A* Rfl !;AUPul !;
    AG+P<MyJOgj;ARfl<ADo;A* HdF RgGo;AFjMA>;AX !;A*l<Ar!;ARfl<Ar!;QkrUPl<Ar!;GHdF RgGo;A~o Rf;
    AASTjISK !;A% R&!;AZIGZAGo;A% BvVy!;LE;HMACRn;N !;HtLDE;HgVjTErBvVE;HRful !;A.TgmMdaA;TE;TI;
    TO;TU;TC;TD;TH;TM;TR;TT;TV;TX;0GvEK ca<>;6q<>;6caeCwICmAMPI;6qeCwICmAMPI;6NUMjdx;
    6LOWj NUMjdx;6caPAMPHYLIk DIGAMMA;6qPAMPHYLIk DIGAMMA;@37A;6YPOGEG+MMsI;
    6SMdL vVjSErLUNATEmIGMA|;C~TErLUNATEmIGMA|;CvVjSEr~TErLUNATEmIGMA|;6QUEStn MeK;6caYOT;@384;
    6TnOS;6DIdYtKA TnOS;6cadPwbTnOS;6kO TEiIA;6caEP=LnbTnOS;M>bTnOS;LIO>bTnOS;@38C;LOMICRnbTnOS;
    @38E;LUP=LnbTnOS;LOMEGAbTnOS;6qIO>bDIdYtKA?TnOS;6cadPw;LBE>;LGAMMA;LDEL>;LEP=Ln;LZE>;LE>;
    LzE>;LIO>;LKAPPA;L.MDA;LMU;LNU;LXI;LOMICRn;LPI;LRHO;@3A3;L=GMA;L>U;LUP=Ln;LPHI;LCHI;LP=;
    LOMEGA;LIO>bDIdYtKA;LUP=LnbDIdYtKA;6qdPwbTnOS;JEP=LnbTnOS;K>bTnOS;JIO>bTnOS;
    JUP=LnbDIdYtKA?TnOS;JdPw;JBE>;JGAMMA;JDEL>;JEP=Ln;JZE>;JE>;JzE>;JIO>;JKAPPA;J.MDA;JMU;JNU;
    JXI;JOMICRn;JPI;JRHO;JFgdmIGMA;J=GMA;J>U;JUP=Ln;JPHI;JCHI;JP=;JOMEGA;JIO>bDIdYtKA;
    JUP=LnbDIdYtKA;JOMICRnbTnOS;JUP=LnbTnOS;JOMEGAbTnOS;6cL KAI|;6BE>|;6zE>|;6UP=LnbHOOK|;
    JACUTykrHOOK|;JDIAjE=S?HOOK|;6PHI|;7I|;6KAI|;6,eCwIC KOPPA;6qeCwIC KOPPA;6iTTjmtGMA;6qStGMA;
    6,DIGAMMA;6qDIGAMMA;6,KOPPA;6qKOPPA;6iTTjmAMPI;6qSAMPI;0COPtC caS<I;7qS<I;7caFEI;7qFEI;
    7caK<I;7qK<I;7caH^I;7qH^I;7caGkGIA;7qGkGIA;7caSHIMA;7qSHIMA;7caDEI;7qDEI;0GvEK KAPPA|;6RHO|;
    6LUNATEmIGMA|;7ETTj YOT;6cL zE>|;6LUNATyEP=Ln|;6vVjSErLUNATyEP=Ln|;6caSHO;6qSHO;
    6cL LUNATEmIGMA|;FETTjmk;6qSk;6RHObSTROKE|;6cL vVjSErLUNATEmIGMA|;E~TErLUNATEmIGMA|;
    EvVjSEr~TErLUNATEmIGMA|;0CYRILLIC caIEbG+VE;PO;ODJE;OGJE;OUK+gIk IE;ODZE;
    OBYEL^US=k-UK+gIk I;OYI;OJE;OLJE;ONJE;OTS<;OKJE;OIbG+VE;OSH^T U;ODZ<;OA;OBE;OVE;OG<;ODE;OIE;
    OZ<;PE;OI;OSH^T I;OKA;OEL;PM;PN;OO;OPE;Oj;PS;OTE;OU;OEF;Ow;OTSE;OC<;OSw;QCw;OHeDx;OYjU;
    OSOFTx;OE;OYU;PA;9qA;MBE;MVE;MG<;MDE;MIE;MZ<;NE;MI;MSH^T I;MKA;MEL;NM;NN;MO;MPE;Mj;NS;MTE;
    MU;MEF;Mw;MTSE;MC<;MSw;OCw;MHeDx;MYjU;MSOFTx;ME;MYU;NA;MIEbG+VE;NO;MDJE;MGJE;MUK+gIk IE;
    MDZE;MBYEL^US=k-UK+gIk I;MYI;MJE;MLJE;MNJE;MTS<;MKJE;MIbG+VE;MSH^T U;MDZ<;9caOMEGA;9qOMEGA;
    9caYAT;9qYAT;9caIOtFIErE;9qIOtFIErE;9caLITTi YUS;9qLITTi YUS;9caIOtFIErLITTi YUS;
    9qIOtFIErLITTi YUS;9caBIG YUS;9qBIG YUS;9caIOtFIErBIG YUS;9qIOtFIErBIG YUS;9caK=;9qK=;9caP=;
    9qP=;9caFI>;9qFI>;9caIZHITSA;9qIZHITSA;9caIZHITSAb% G+VyACCsT;9qIZHITSAb% G+VyACCsT;9caUK;
    9qUK;9caROUNrOMEGA;9qROUNrOMEGA;9caOMEGAbtTLO;9qOMEGAbtTLO;9caOT;9qOT;9caKOPPA;9qKOPPA;
    9zOUSkDSx;1OMBg&CYRILLIC tTLO;JPdATdIZAtn;JDA=A PNEUMA>;JP=LI PNEUMA>;KOKRYtE;
    JHUNDvrzOUSkDSx;JMILLInSx;1YRILLIC caSH^T Ib>IL;9qSH^T Ib>IL;9caSEMISOFTx;9qSEMISOFTx",
   "9cajbtCK;9qjbtCK;9caG<bUPTURN;9qG<bUPTURN;9caG<bSTROKE;9qG<bSTROKE;9caG<bMIDDi HOOK;
    9qG<bMIDDi HOOK;9caZ<bDESCsDj;9qZ<bDESCsDj;9caZEbDESCsDj;9qZEbDESCsDj;9caKAbDESCsDj;
    9qKAbDESCsDj;9caKAbVjtCdmTROKE;9qKAbVjtCdmTROKE;9caKAbSTROKE;9qKAbSTROKE;9caBASHKIR KA;
    9qBASHKIR KA;9casbDESCsDj;9qsbDESCsDj;9cL LIGATUv s G<;9SMdL LIGATUv s G<;9caPEbMIDDi HOOK;
    9qPEbMIDDi HOOK;9caABKw=k w;9qABKw=k w;9caESbDESCsDj;9qESbDESCsDj;9caTEbDESCsDj;
    9qTEbDESCsDj;9caST+f U;9qST+f U;9caST+f UbSTROKE;9qST+f UbSTROKE;9cawbDESCsDj;9qwbDESCsDj;
    9cL LIGATUv TyTSE;9SMdL LIGATUv TyTSE;9caC<bDESCsDj;9qC<bDESCsDj;9caC<bVjtCdmTROKE;
    9qC<bVjtCdmTROKE;9caSHw;9qSHw;9caABKw=k C<;9qABKw=k C<;9caABKw=k C<bDESCsDj;
    9qABKw=k C<bDESCsDj;9,PdOCHKA;9caZ<bBvVE;9qZ<bBvVE;9caKAbHOOK;9qKAbHOOK;9caELb>IL;9qELb>IL;
    9casbHOOK;9qsbHOOK;9casb>IL;9qsb>IL;9caKwKAS=k C<;9qKwKAS=k C<;9caEMb>IL;9qEMb>IL;MPdOCHKA;
    9caAbBvVE;9qAbBvVE;9caAbDIAjE=S;9qAbDIAjE=S;9cL LIGATUv A IE;9SMdL LIGATUv A IE;9caIEbBvVE;
    9qIEbBvVE;9caSCHWA;9qSCHWA;9caSCHWAbDIAjE=S;9qSCHWAbDIAjE=S;9caZ<bDIAjE=S;9qZ<bDIAjE=S;
    9caZEbDIAjE=S;9qZEbDIAjE=S;9caABKw=k DZE;9qABKw=k DZE;9caIbMACRn;9qIbMACRn;9caIbDIAjE=S;
    9qIbDIAjE=S;9caObDIAjE=S;9qObDIAjE=S;9caBevrO;9qBevrO;9caBevrObDIAjE=S;9qBevrObDIAjE=S;
    9caEbDIAjE=S;9qEbDIAjE=S;9caUbMACRn;9qUbMACRn;9caUbDIAjE=S;9qUbDIAjE=S;9caUb% ACUTE;
    9qUb% ACUTE;9caC<bDIAjE=S;9qC<bDIAjE=S;9caG<bDESCsDj;9qG<bDESCsDj;9caYjUbDIAjE=S;
    9qYjUbDIAjE=S;9caG<bSTROKykrHOOK;9qG<bSTROKykrHOOK;9cawbHOOK;9qwbHOOK;9cawbSTROKE;
    9qwbSTROKE;9caKOMI DE;9qKOMI DE;9caKOMI DJE;9qKOMI DJE;9caKOMI ZJE;9qKOMI ZJE;9caKOMI DZJE;
    9qKOMI DZJE;9caKOMI LJE;9qKOMI LJE;9caKOMI NJE;9qKOMI NJE;9caKOMImJE;9qKOMImJE;9caKOMI TJE;
    9qKOMI TJE;9cavVjSErZE;9qvVjSErZE;9caELbHOOK;9qELbHOOK;9caLw;9qLw;9caRw;9qRw;9caYAE;9qYAE;
    9caQA;9qQA;9caWE;9qWE;9cadEUT KA;9qdEUT KA;9caELbMIDDi HOOK;9qELbMIDDi HOOK;9casbMIDDi HOOK;
    9qsbMIDDi HOOK;9caPEbDESCsDj;9qPEbDESCsDj;9caSHwbDESCsDj;9qSHwbDESCsDj;9casb* HOOK;
    9qsb* HOOK;9caDZZ<;9qDZZ<;9caDC<;9qDC<;9caELbDESCsDj;9qELbDESCsDj;@531;0eMsIk caAYB;OBs;
    OGIM;ODA;OECH;OZA;OEH;PT;OTO;OZ<;OgI;OLIWN;OXEH;OCA;OKs;OHO;OJA;OGwD;OC<H;OMs;OYI;ONOW;OSw;
    OVO;OCw;OPEH;OJ<H;O+;OSEH;OVEW;OtWN;OvH;OCO;OYIWN;OPIWR;OKEH;OOH;OFEH;@559;
    9MODIFIj ,* HdF RgG;9APOSTROP<;9EMPw=S MeK;AXC.MAtn MeK;9COMMA;9QUEStn MeK;9ABBvVIAtn MeK;
    9qTURNErAYB;MAYB;MBs;MGIM;MDA;MECH;MZA;MEH;NT;MTO;MZ<;MgI;MLIWN;MXEH;MCA;MKs;MHO;MJA;MGwD;
    MC<H;MMs;MYI;MNOW;MSw;MVO;MCw;MPEH;MJ<H;M+;MSEH;MVEW;MtWN;MvH;MCO;MYIWN;MPIWR;MKEH;MOH;MFEH;
    GIGATUv ECH YIWN;GETTj YIbSTROKE;9FULLmTOP;9HYPHs;@58D;0Rf-FAC&eMsIk ETjNITYx;
    0*-FAC&eMsIk ETjNITYx;0eMsIk D+Mx;@591;0<BvW ACCsT ETNAH>;ESEGOL;FHdS<iT;EZAQEF QATk;KGADOL;
    EtPEw;EvVIA;EZeQA;EPASH>;EYEtV;ETEVIR;EGjESH;K MUQDAM;HSwYIM;EQeNEY PeA;ETELISw GEDO.;EPAZj;
    EATNAH wFUKH;EMUNAH;FAwPAKH;FjKw;K KEFU.;EDeGA;EQADMA;ETELISw QETkA;EYjAH Bs YOMO;EOi;EILUY;
    EDEHI;EZg^;7MeK MASO+ _i;7POgTm<VA;Dw>FmEGOL;JPA>H;JQAMATS;EIRIQ;DTSjE;DSEGOL;DPA>H;DQAMATS;
    DHO.M;I wSj F^ VAV;DQUBUTS;DDAGESH ^ MAPIQ;DMETEG;8UNCTUAtn MAQAF;8OgT +FE;8UNCTUAtn PASEQ;
    8OgTmHg ~;Eg ~;8UNCTUAtnmOF PASUQ;7MeK UPPj ~;CLOWj ~;7PUNCTUAtn NUN wFUKw;8OgT QAMATS QATk;
    @5D0;7,dEF;EBET;EGIMEL;EDdET;E<;EVAV;EZAYg;E<T;ETET;EYOD;EFgd KAF;EKAF;E.MED;EFgd MEM;EMEM;
    EFgd NUN;ENUN;ESAMEKH;EAYg;EFgd PE;EPE;EFgd TSADI;ETSADI;EQOF;EvSH;ESHg;E>V;@5EF;7YOrTRIkGi;
    7LIGATUv YIDDISH % VAV;OVAV YOD;O% YOD;7PUNCTUAtn GjESH;MSwYIM;@600;0eABIC NUMBjx;7=GNmkAH;
    7FOOTNOTyMeKj;7=GNmAFw;EMVAT;7NUMBj MeKo;6-gDIC CUByROOT;DFOURz ROOT;6 +Y;6-gDIC Pj MILix;
    HTs zOUSkDx;1FGHkIx;1+BIC COMMA;7DATEmEPeAT^;7POEtC VjSEx;7=GN MIS+;CSdLd.HOU dAYHyWASSd.M",
   "CdAYHyASSd.M;C+HMATUL.H dAY<;EDI d.HOU kHU;C>KHdLUS;8MdL HIGH >H;ILIGATUv dEFb.MbYEH;IZAg;
    DFATw;DDAMMA;DKAS+;8EMICOLn;7,MeK;7srOF TEXT MeK;7TRIPi ~ PUNCTUAtn MeK;7QUEStn MeK;
    7,KASHMIRI YEH;EwMZA;EdEFbMADDAo;OwMZAo;EWAWbwMZAo;EdEFbwMZA !;EYEHbwMZAo;EdEF;EBEH;
    ETEH MeBU>;GH;F<H;EJEEM;EwH;EKwH;EDd;Ezd;EvH;EZAg;ESEs;F<s;FAD;EDAD;E>H;EZAH;EAg;EGwg;
    EKE<HbTWO ~So;QHvy~S !;EFe= YEHbgVjTErV;TTWO ~So;UHvy~So;7>TWEEL;7,FEH;EQAF;EKAF;E.M;EMEEM;
    ENOn;E<H;EWAW;EdEF MAKSU+;EYEH;7FATwTk;7DAMMATk;7KAS+Tk;7FATw;7DAMMA;7KAS+;7SwDDA;8UKUN;
    7MADDAHo;7wMZAo;D!;7SUBSCRIPT dEF;7gVjTErDAMMA;7MeK NOn GHUNNA;7ZWeAKAY;7VOWELxmMdL Vo;
    IgVjTEDmMdL Vo;I~ !;7vVjSErDAMMA;7FATwbTWO ~S;7WAVY wMZA !;6-gDIC DIGIT ZjO;JnE;JTWO;KHvE;
    JFOUR;KIVE;J=X;KEVs;JEf;JNgE;6 PjCsTx;7DECIMdmEPeAT^;7zOUSkDSmEPeAT^;7FIVyPOgTEDmTe;
    7,~iSS BEH;MQAF;ESUPjSCRIPT dEF;EdEF WAS.;KIz WAVY wMZAo;Z!;EHIGH wMZA;O dEF;PWAW;EUbwMZAo;
    EHIGH wMZA YEH;ETTEH;IEH;EBEEH;ETEHbRgG;Nzvy~So DOWNu;EPEH;ETE<H;EBE<H;EwHbwMZAo;
    NTWO ~S VjtCdo;ENYEH;EDYEH;EwHbzvy~So;ETC<H;JEH;EDDd;FdbRgG;N~ !;W kDmMdL >H;GHd;FDAHd;FUL;
    Fdbzvy~So DOWNu;NFOUR ~So;ERvH;FEHbSMdL V;NRgG;N~ !;NSMdL V !;N~ !?~o;NTWO ~So;EJEH;
    EvHbFOUR ~So;ESEsb~ !?~o;Ozvy~S !;Z!?zvy~So;FADbTWO ~S !;OHvy~So;E>Hbzvy~So;EAgbzvy~So;
    E~iSS FEH;EFEHb~ MOVEr!;R!;EVEH;EFEHbzvy~S !;EPE<H;EQAFb~o;Nzvy~So;EKE<H;ESWASH KAF;
    EKAFbRgG;N~o;ENG;EKAFbzvy~S !;EGAF;HbRgG;ENGOEH;EGAFbTWO ~S !;FUEH;FAFbzvy~So;E.MbSMdL V;
    N~o;Nzvy~So;Y!;ENOnb~ !;JGHUNNA;ERNOn;ENOnbRgG;Ozvy~So;E<H DOACwSHMEE;ETC<Hb~o;E<HbYEHo;
    IGOd;MbwMZAo;ETEH MeBU> GOd;EWAWbRgG;EKIRGHIZ OE;EOE;EU;EYU;EKIRGHIZ YU;EWAWbTWO ~So;EVE;
    EFe= YEH;EYEHb>IL;NSMdL V;EWAWb~o;EE;EYEHbzvy~S !;IBevE;ObwMZAo;7FULLmTOP;7,AE;
    7SMdL HIGH LIGATUvmADb.MbdEF MAKSU+;RQAFb.MbdEF MAKSU+;IMEEM gItdh;I.M dEF;IJEEM;Izvy~S;
    ISEs;7srOF AYAH;7STeT OF RUB EL HIZB;8MdL HIGH ROUNDErZjO;IUPRf vCTkGULe ZjO;
    I~iSS <ArOF KwH;IMEEMp;DLOWmEs;DHIGH MADDA;DWAW;DYEH;DHIGH YEH;INOn;7P.CyOFmAJDAH;
    7EMPTY CsTv LOWmTOP;KHIGHmTOP;7ROUNDErHIGHmTOPbFILirCsTv;7SMdL LOW MEEM;7,DdbgVjTErV;
    EvHbgVjTErV;0EXTsDEreABIC-gDIC DIGIT ZjO;SnE;STWO;THvE;SFOUR;TIVE;S=X;TEVs;SEf;SNgE;
    0eABIC iTTjm<sb~ !;EDADb~ !;EGwgb~ !;7=GNmgDHI AMPjSkD;JPOSTPO=tn Ms;7,<HbgVjTErV;
    0SYRIAC srOF PeAG+PH;7SUPRdgEe FULLmTOP;9BLgEe FULLmTOP;9PRdgEe COLn;9BLgEe COLn;
    7H^IZnTd COLn;7COLnmKEWEr*;KRf;7SUPRdgEe COLnmKEWEr*;9BLgEe COLnmKEWErRf;7CnT+Ctn;
    7HeKik OBELUS;GMETOBELUS;GASTjISCUS;@70F;7ABBvVIAtn MeK;7,dAPH;ESUPjSCRIPT dAPH;EBEz;EGAMd;
    J GeSHUNI;EDdAz;FOTiSS DdAz RISH;E<;EWAW;EZAg;E<z;ETEz;I GeSHUNI;EYUDH;I <;EKAPH;E.MADH;
    EMIM;ENUN;ESEMKAz;EFgdmEMKAz;EE;EPE;EvVjSErPE;ESAD<;EQAPH;ERISH;ESHg;E>W;EPj=k B<z;MGwMd;
    MDHdAz;7PTwwo;E!;E~TED;7ZQAPwo;E!;E~TED;7RBASAo;D!;7~TErZ.MA H^IZnTd;KkGULe;7HBASAo;D!;
    C-ESASA ~TED;7ESASAo;D!;7RWAw;7FEMggy~;7QUSHSwYA;7RUKKAKw;7TWO VjtCd ~So;P!;8Hvy~So;I!;
    7OBLIQUyLgEo;K!;7MU=C;7BevKH;@74D;7iTTjmOGDIk Zwg;MKwPH;MFE;0eABIC ,BEHbzvy~S H^IZnTdLY !;
    N~ !?zvy~So;Nzvy~S POgT&UPu !;ZOgT&UPu !?TWO ~So;OWO ~S !?~o;NgVjTEDmMdL V !;NSMdL V;
    EwHbTWO ~So;OHvy~S POgT&UPu !;EDdbTWO ~S VjtCdLY ! kDmMdL >H;NgVjTEDmMdL V !;EvHbSTROKE;
    ESEsbFOUR ~So;EAgbTWO ~So;OHvy~S POgT&DOWNuo;OWO ~S VjtCdLYo;EFEHbTWO ~S !;
    OHvy~S POgT&UPu !;EKE<Hb~o;Pzvy~So;Z POgT&UPu !;EMEEMb~o;S!;ENOnbTWO ~S !;OSMdL >H;UV;
    E.MbBe;EvHbTWO ~S VjtCdLYo;NwMZAo;ESEsbTWO ~S VjtCdLYo;EwHbSMdL eABIC ,>H !;Z ,>H?TWO ~S;
    ESEsbSMdL eABIC ,>H?TWO ~S;EvHbSMdL eABIC ,>H?TWO ~S;EwHbSMdL eABIC ,>Ho;
    EdEFbEXTsDEreABIC-gDIC DIGIT TWOo;ZABIC-gDIC DIGIT zvEo",
   "EFe= YEHbEXTsDEreABIC-gDIC DIGIT TWOo;ZEreABIC-gDIC DIGIT zvEo;ZEreABIC-gDIC DIGIT FOUR !;
    EWAWbEXTsDEreABIC-gDIC DIGIT TWOo;ZBIC-gDIC DIGIT zvEo;
    EYEH BevEbEXTsDEreABIC-gDIC DIGIT TWOo;ZDEreABIC-gDIC DIGIT zvEo;
    EwHbEXTsDEreABIC-gDIC DIGIT FOUR !;ESEsbEXTsDEreABIC-gDIC DIGIT FOURo;OgVjTErV;EKAFbTWO ~So;
    0TwkA ,wA;ESwVIYkI;ENOnU;E+A;EBAA;ELwVIYkI;EKAAFU;EdIFU;EVAAVU;EMEEMU;EFAAFU;EDwdU;ETwA;
    E.AMU;EGAAFU;FNAVIYkI;ESEsU;EDAVIYkI;EZAVIYkI;E>VIYkI;EYAA;EPAVIYkI;EJAVIYkI;ECwVIYkI;ET>A;
    EHwA;EKwA;ETwdU;EZAA;ES<sU;FAADHU;EDAADHU;ETO;EZO;EAgU;EGwgU;EQAAFU;EWAAVU;7ABAFILI;
    8ABAAFILI;7IBIFILI;7EEBEEFILI;7UBUFILI;7OOBOOFILI;7EBEFILI;8YBEYFILI;7OBOFILI;8ABOAFILI;
    7SUKUN;7,NAA;@7C0;0NKO DIGIT ZjO;AnE;ATWO;BHvE;AFOUR;BIVE;A=X;BEVs;AEf;ANgE;4,A;BEE;BI;BE;
    BU;BOO;BO;BDAGBASgNA;BN;BBA;BPA;B>;BJA;BCw;BDA;B+;C+;BSA;BGBA;BFA;BKA;B.;BNA WOLOSO;BMA;
    BNYA;CA;Bw;BWA;BYA;BNYA WOLOSO;BJnA JA;GCw;G+;4COMBggGmH^T HIGH TnE;KLOW TnE;KRIS&TnE;
    ELnG DESCsD&TnE;JHIGH TnE;JLOW TnE;JRIS&TnE;ENASdIZAtn MeK;E% ~o;4HIGH TnyAPOSTROP<;
    4LOW TnyAPOSTROP<;4SYMBOL OO DsNs;BGBAKURUNs;4COMMA;4EXC.MAtn MeK;4.JkYdk;@7FD;4Dk>Ydk;
    5^OMEx;4>Mkx;0SAMeITk ,dAF;HBIT;HGAMk;HDdAT;HIY;HBAA;HZs;HIT;HtT;HYUT;HKAAF;H.BAT;HMIM;HNUN;
    HSgGAAT;Hg;HFI;HTSAADIY;HQUF;HRISH;HSHk;H>AF;AMeK g;H-dAF;FOCCLU=n;FDAGESH;
    BODIFIj ,EPszEtC YUT;BeK EPszEtC YUT;AVOWELx LnG E;LE;LOVjLnG AA;LLnG AA;LAA;LOVjLnG A;
    LLnG A;LA;AMODIFIj iTTjmH^T A;AVOWELxmH^T A;LLnG U;LU;AMODIFIj ,I;AVOWELx LnG I;LI;LO;
    LSUKUN;AMeK NEQUDAA;@830;APUNCTUAtn NEQUDAA;MAFSAAQ;NNGED;MBAU;MATMAAU;MSHIYYAdAA;
    AABBvVIAtn MeK;APUNCTUAtn MELODIC QITSA;MZIQAA;MQITSA;MZAEF;MTURU;MeKAkU;MSOF MASHFAAT;
    MkNAAU;@840;0MkDAIC ,HdQA;FAB;GG;GD;GH;FUSHsNA;FAZ;FIT;FATT;GKSA;GK;GL;GM;GN;GS;Fg;FAP;GSZ;
    GQ;GR;GSH;GT;FDUSHsNA;FKAD;FAg;8AFFRICAtn MeK;8VOCdIZAtn MeK;8GEMgAtn MeK;@85E;8PUNCTUAtn;
    @860;0SYRIAC ,MdAYdAM NGA;OJA;ONYA;OT>;ONNA;QNA;OBw;O+;OL.;Q.;OSSA;@870;
    0eABIC ,dEFbAT>C<rFATw;XTOP Rf FATw;ORf MIDDimTROKE;O* MIDDimTROKE;OAT>C<rKAS+;
    XBOTTOM Rf KAS+;XROUNr~o;Yf ROUNr~;X* ROUNr~;XROUNr~ !;O~o;OAT>C<rTOP Rf FATw?~o;
    ORf MIDDimTROKykr~o;OAT>C<rBOTTOM Rf KAS+?~o;XTOP Rf FATw?* RgG;ORf MIDDimTROKykr* RgG;
    OAT>C<rBOTTOM Rf KAS+?* RgG;XRf wMZA;X* wMZA;7>TWEELbOVjSTRUCK wMZA;VWAW;KTWO ~S !;7,zg YEH;
    7BASELgyROUNr~;7+ISErROUNr~;7,NOnbgVjTEDmMdL V;EwHbgVjTEDmMdL V !;E>Hb~ !;Nzvy~S !;
    EKE<HbTWO ~S VjtCdLY !;7VjtCd >IL;@890;7POUNrMeKo;8IASTv MeKo;@898;7SMdL HIGH W^rd-JUZ;
    DLOW W^rISHMAAM;NMAdA;M>S<EL;7MADDA WAAJIB;7SUPjSCRIPT dEF MOKwSSAS;7%rMADDA;
    7HdF MADDA OVj MADDA;7,BEHbSMdL V !;NwMZAo;EJEEMbTWO ~So;E>HbTWO ~So;EFEHb~ !?zvy~So;
    EQAFb~ !;E.Mb% Be;EMEEMbzvy~So;EYEHbTWO ~S !?wMZAo;ZOW?~o;EvHbLOOP;EWAWb~ WIzg;EROHgGYA YEH;
    ELOW dEF;EDdbzvy~S !;ESADbzvy~S !;EGAFbgVjTEDmTROKE;EST+f WAW;EZAgbgVjTErVo;EAgbzvy~S !;
    EKAFb~ !;EQAFb~ !?NO ~So;EBEHbSMdL MEEMo;EPEHbSMdL MEEMo;ETEHbSMdL TEHo;EvHbSMdL NOno;
    EYEHbTWO ~S ! kDmMdL NOno;EAFRICk FEH;MQAF;MNOn;EPEHbSMdL V;ETEHbSMdL V;FTEHbSMdL V;
    FC<HbSMdL V;EKE<HbSMdL V;EGwgbzvy~So;EAFRICk QAFbzvy~So;EJEEMbzvy~So;Z!;E.MbSMdL eABIC ,>Ho;
    EG+F;7SMdL Fe= YEH;DHIGH Fe= YEH;IYEH BevEbTWO ~S !;IW^DmAH;IZAH;7LeGyROUNr~o;N!;7SUKUN !;
    7LeGy_i !;DROUNr~ g=Dy_i !;7SMdL LOW WAW;DHIGH W^re-RUB;ISAD;IAg;IQAF;INOnbKAS+;
    DLOW NOnbKAS+;DHIGH W^rAz-zdATw;OS-SAJDA;ON-NISF;NSAK>;NQIF;NWAQFA;IFOOTNOTyMeKj;I=GNmAFw;
    7DISPUTErsrOF AYAH;7TURNErDAMMA !;7CURLY FATw;DDAMMA;DKAS+;DFATwTk;DDAMMATk;DKAS+Tk;
    7Tnyny~o;CTWO ~So;CLOOPo;Cny~ !;CTWO ~S !;CLOOP !;7OPs FATwTk;CDAMMATk;CKAS+Tk",
   "7SMdL HIGH WAW;7FATwbRgG;I~o;7KAS+b~ !;7*l<ADo;7Rfl<ADo;7*l<Ar!;7Rfl<Ar!;7% Rfl<ADo;Zb~;
    7Rfl<ADob~;7DAMMAb~;7MeKmIDEWAYS NOn GHUNNA;0DEVkAGeIx gVjTErCkD+BgDU;GCkD+BgDU;GkUSVeA;
    GVISeGA;BiTTjmH^T A;IA;JA;II;JI;IU;JU;IVOCdIC R;QL;ICkD+ E;ISH^T E;IE;IAI;ICkD+ O;ISH^T O;
    IO;IAU;IKA;Jw;IGA;Jw;INGA;ICA;Jw;IJA;Jw;INYA;IT>;Kw;IDDA;Kw;INNA;I>;Jw;IDA;Jw;INA;JNNA;IPA;
    Jw;IBA;Jw;IMA;IYA;I+;J+;I.;J.;K.;IVA;ISw;JSA;JA;Iw;BVOWELx OE;NOE;B=GN NUK>;GAVAG+w;
    BVOWELx AA;MI;NI;MU;NU;MVOCdIC R;VR;MCkD+ E;MSH^T E;ME;MAI;MCkD+ O;MSH^T O;MO;MAU;
    B=GN VI+MA;BVOWELx PRISHTwMAT+ E;MAW;BOM;BSTvSSx UDAT>;NkUDAT>;BG+VyACCsT;BACUTyACCsT;
    BVOWELx CkD+ LnG E;MUE;NUE;B,QA;IKHw;IGHw;IZA;IDDDw;IRw;IFA;IYYA;IVOCdIC RR;QLL;
    BVOWELx VOCdIC L;VL;BDkDA;COUBi DkDA;CIGIT ZjO;HnE;HTWO;IHvE;HFOUR;IIVE;H=X;IEVs;HEf;HNgE;
    BABBvVIAtnx;B=GN HIGHmPAC&~;B,CkD+ A;IOE;JOE;IAW;IUE;JUE;IMeWeI DDA;IZw;I<AVY YA;IGGA;IJJA;
    IGLOTTdmTOP;IDDDA;IBBA;0BsGdI kJI;8=GN CkD+BgDU;DkUSVeA;DVISeGA;@985;8,A;GA;FI;GI;FU;GU;
    FVOCdIC R;NL;@98F;FE;FAI;@993;FO;FAU;FKA;Gw;FGA;Gw;FNGA;FCA;Gw;FJA;Gw;FNYA;FT>;Hw;FDDA;Hw;
    FNNA;F>;Gw;FDA;Gw;FNA;@9AA;FPA;Gw;FBA;Gw;FMA;FYA;F+;@9B2;F.;@9B6;FSw;GSA;GA;Fw;@9BC;
    8=GN NUK>;DAVAG+w;8VOWELx AA;JI;KI;JU;KU;JVOCdIC R;SR;@9C7;JE;JAI;@9CB;JO;JAU;8=GN VI+MA;
    8,KHkDA >;@9D7;8AU iNGz MeK;@9DC;8,R+;Gw;@9DF;FYYA;FVOCdIC RR;NLL;8VOWELx VOCdIC L;SL;@9E6;
    8DIGIT ZjO;EnE;ETWO;FHvE;EFOUR;FIVE;E=X;FEVs;EEf;ENgE;8,+bMIDDi DIAGnd;NLOWj DIAGnd;
    8RUPEyMeK;E=GN;8CURRsCY NUMjAT^ nE;RTWO;SHvE;RFOUR;RnyiSS zk zyDsOMgAT^;HDsOMgAT^mIXTEs;
    8ISSHe;8GkDA MeK;8,VEDIC kUSVeA;8ABBvVIAtnx;8SkDHI MeK;@A01;0GURMUKHIx ADAK BgDI;EBgDI;
    EVISeGA;@A05;9,A;HA;GI;HI;GU;HU;@A0F;GEE;GAI;@A13;GOO;GAU;GKA;Hw;GGA;Hw;GNGA;GCA;Hw;GJA;Hw;
    GNYA;GT>;Iw;GDDA;Iw;GNNA;G>;Hw;GDA;Hw;GNA;@A2A;GPA;Hw;GBA;Hw;GMA;GYA;G+;@A32;G.;H.;@A35;GVA;
    GSw;@A38;HA;Gw;@A3C;9=GN NUK>;@A3E;9VOWELx AA;KI;LI;KU;LU;@A47;KEE;KAI;@A4B;KOO;KAU;
    9=GN VI+MA;@A51;EUDAAT;@A59;9,KHw;GGHw;GZA;GR+;@A5E;GFA;@A66;9DIGIT ZjO;FnE;FTWO;GHvE;FFOUR;
    GIVE;F=X;GEVs;FEf;FNgE;9tPPI;9ADDAK;9IRI;9U+;9EK nKe;9=GN YAKASH;9ABBvVIAtnx;@A81;
    2JeAtx CkD+BgDU;EkUSVeA;EVISeGA;@A85;9,A;HA;GI;HI;GU;HU;GVOCdIC R;OL;9VOWEL CkD+ E;@A8F;9,E;
    GAI;9VOWEL CkD+ O;@A93;9,O;GAU;GKA;Hw;GGA;Hw;GNGA;GCA;Hw;GJA;Hw;GNYA;GT>;Iw;GDDA;Iw;GNNA;G>;
    Hw;GDA;Hw;GNA;@AAA;GPA;Hw;GBA;Hw;GMA;GYA;G+;@AB2;G.;H.;@AB5;GVA;GSw;HSA;HA;Gw;@ABC;
    9=GN NUK>;EAVAG+w;9VOWELx AA;KI;LI;KU;LU;KVOCdIC R;TR;KCkD+ E;@AC7;KE;KAI;KCkD+ O;@ACB;KO;
    KAU;9=GN VI+MA;@AD0;9OM;@AE0;9,VOCdIC RR;OLL;9VOWELx VOCdIC L;TL;@AE6;9DIGIT ZjO;FnE;FTWO;
    GHvE;FFOUR;GIVE;F=X;GEVs;FEf;FNgE;9ABBvVIAtnx;9RUPEEx;@AF9;9,Zw;9=GNmUKUN;FwDDA;EMADDAH;
    EzvE-~ NUK>o;E_i NUK>o;ETWO-_i NUK>o;@B01;0^IYAx CkD+BgDU;BkUSVeA;BVISeGA;@B05;6,A;EA;DI;EI;
    DU;EU;DVOCdIC R;LL;@B0F;DE;DAI;@B13;DO;DAU;DKA;Ew;DGA;Ew;DNGA;DCA;Ew;DJA;Ew;DNYA;DT>;Fw;
    DDDA;Fw;DNNA;D>;Ew;DDA;Ew;DNA;@B2A;DPA;Ew;DBA;Ew;DMA;DYA;D+;@B32;D.;E.;@B35;DVA;DSw;ESA;EA;
    Dw;@B3C;6=GN NUK>;BAVAG+w;6VOWELx AA;HI;II;HU;IU;HVOCdIC R;QR;@B47;HE;HAI;@B4B;HO;HAU;
    6=GN VI+MA;@B55;BOVjLgE;6AI iNGz MeK;7U iNGz MeK;@B5C;6,R+;Ew;@B5F;DYYA;DVOCdIC RR;LLL;
    6VOWELx VOCdIC L;QL;@B66;6DIGIT ZjO;CnE;CTWO;DHvE;CFOUR;DIVE;C=X;DEVs;CEf;CNgE;6ISSHe;6,WA;
    6F+Ctn nyQUeTj;JHdF;FzvyQUeTjS;FnEmIXTEsz;JEfH;FzvEmIXTEszS;@B82;0>MILx kUSVeA;BVISeGA;@B85;
    6,A;EA;DI;EI;DU;EU;@B8E;DE;EE;DAI;@B92;DO;EO;DAU;DKA;@B99;DNGA;DCA;@B9C;DJA;@B9E;DNYA;DT>;
    @BA3;DNNA;D>;@BA8;DNA;ENNA;DPA;@BAE;DMA;DYA;D+;E+;D.;E.;F.;DVA;DSw;ESA;EA;Dw;@BBE;
    6VOWELx AA;HI;II;HU;IU;@BC6;HE;IE;HAI;@BCA;HO;IO;HAU;6=GN VI+MA;@BD0;6OM;@BD7;6AU iNGz MeK;
    @BE6;6DIGIT ZjO;CnE;CTWO;DHvE;CFOUR;DIVE;C=X;DEVs;CEf;CNgE;6NUMBj Ts;DnyHUNDvD;HzOUSkD",
   "6DAYx;6Mnzx;6YEex;6DEBITx;6CvDITx;6ASox;6RUPEEx;6NUMBjx;@C00;1ELUGUx COMBg&CkD+BgDUo;
    DkD+BgDU;CkUSVeA;CVISeGA;CCOMBg&kUSVeAo;7,A;FA;EI;FI;EU;FU;EVOCdIC R;ML;@C0E;EE;FE;EAI;@C12;
    EO;FO;EAU;EKA;Fw;EGA;Fw;ENGA;ECA;Fw;EJA;Fw;ENYA;ET>;Gw;EDDA;Gw;ENNA;E>;Fw;EDA;Fw;ENA;@C2A;
    EPA;Fw;EBA;Fw;EMA;EYA;E+;F+;E.;F.;G.;EVA;ESw;FSA;FA;Ew;@C3C;7=GN NUK>;CAVAG+w;7VOWELx AA;II;
    JI;IU;JU;IVOCdIC R;RR;@C46;IE;JE;IAI;@C4A;IO;JO;IAU;7=GN VI+MA;@C55;7iNGz MeK;7AI iNGz MeK;
    @C58;7,TSA;EDZA;ERR+;@C5D;ENAKAeA POLLU;@C60;EVOCdIC RR;MLL;7VOWELx VOCdIC L;RL;@C66;
    7DIGIT ZjO;DnE;DTWO;EHvE;DFOUR;EIVE;D=X;EEVs;DEf;DNgE;@C77;7=GNmIDDwM;
    7F+Ctn DIGIT ZjO F^ ODrPOWjS OF FOUR;MnyF^ ODrPOWjS OF FOUR;MTWO F^ ODrPOWjS OF FOUR;
    NHvyF^ ODrPOWjS OF FOUR;MnyF^ EVs POWjS OF FOUR;MTWO F^ EVs POWjS OF FOUR;
    NHvyF^ EVs POWjS OF FOUR;7=GN TUUMU;0KkNADAxmPAC&CkD+BgDU;DCkD+BgDU;DkUSVeA;DVISeGA;D=DDwM;
    8,A;GA;FI;GI;FU;GU;FVOCdIC R;NL;@C8E;FE;GE;FAI;@C92;FO;GO;FAU;FKA;Gw;FGA;Gw;FNGA;FCA;Gw;FJA;
    Gw;FNYA;FT>;Hw;FDDA;Hw;FNNA;F>;Gw;FDA;Gw;FNA;@CAA;FPA;Gw;FBA;Gw;FMA;FYA;F+;G+;F.;G.;@CB5;
    FVA;FSw;GSA;GA;Fw;@CBC;8=GN NUK>;DAVAG+w;8VOWELx AA;JI;KI;JU;KU;JVOCdIC R;SR;@CC6;JE;KE;JAI;
    @CCA;JO;KO;JAU;8=GN VI+MA;@CD5;8iNGz MeK;8AI iNGz MeK;@CDD;8,NAKAeA POLLU;FFA;@CE0;
    FVOCdIC RR;NLL;8VOWELx VOCdIC L;SL;@CE6;8DIGIT ZjO;EnE;ETWO;FHvE;EFOUR;FIVE;E=X;FEVs;EEf;
    ENgE;@CF1;8=GN JIHVAMULIYA;DUPADHMkIYA;@D00;0MdAYdAMx COMBg&kUSVeAo;GkD+BgDU;FkUSVeA;
    FVISeGA;A,VEDIC kUSVeA;HA;IA;HI;II;HU;IU;HVOCdIC R;PL;@D0E;HE;IE;HAI;@D12;HO;IO;HAU;HKA;Iw;
    HGA;Iw;HNGA;HCA;Iw;HJA;Iw;HNYA;HT>;Jw;HDDA;Jw;HNNA;H>;Iw;HDA;Iw;HNA;INNA;HPA;Iw;HBA;Iw;HMA;
    HYA;H+;I+;H.;I.;J.;HVA;HSw;ISA;IA;Hw;HTT>;A=GN VjtCd Be VI+MA;F_ULe VI+MA;FAVAG+w;
    AVOWELx AA;LI;MI;LU;MU;LVOCdIC R;UR;@D46;LE;ME;LAI;@D4A;LO;MO;LAU;A=GN VI+MA;A,~ vPH;
    A=GN PeA;@D54;A,CHILLU M;OY;OLLL;AAU iNGz MeK;AF+Ctn nynE-HUNDvD-kD-=XtEz;NF^tEz;JzvyEfIEzS;
    JnyTWstEz;Osz;JzvyTWstEzS;JnyFIFz;A,eCwIC II;HVOCdIC RR;PLL;AVOWELx VOCdIC L;UL;@D66;
    ADIGIT ZjO;GnE;GTWO;HHvE;GFOUR;HIVE;G=X;HEVs;GEf;GNgE;ANUMBj Ts;HnyHUNDvD;LzOUSkD;
    AF+Ctn nyQUeTj;NHdF;JzvyQUeTjS;JnEmIXTEsz;NEfH;JzvEmIXTEszS;ADATyMeK;A,CHILLU NN;ON;ORR;OL;
    PL;OK;@D81;0SgHdAx CkD+BgDU;DkUSVeAYA;DVISeGAYA;@D85;8,AYkNA;GAYkNA;GEYkNA;HEYkNA;FIYkNA;
    GIYkNA;FUYkNA;GUYkNA;FIRUYkNA;IUYkNA;GLUYkNA;IUYkNA;FEYkNA;GEYkNA;FAIYkNA;FOYkNA;GOYkNA;
    FAUYkNA;@D9A;GLPAP+kA KAYkNA;FMAwAP+kA KAYkNA;FdPAP+kA GAYkNA;FMAwAP+kA GAYkNA;
    FKk>JA NAA=KYAYA;FSkYAKA GAYkNA;FdPAP+kA CAYkNA;FMAwAP+kA CAYkNA;FdPAP+kA JAYkNA;
    FMAwAP+kA JAYkNA;F>dUJA NAA=KYAYA;NSkYOOGA NAAK=KYAYA;FSkYAKA JAYkNA;FdPAP+kA T>YkNA;
    FMAwAP+kA T>YkNA;FdPAP+kA DDAYkNA;FMAwAP+kA DDAYkNA;GUURDwJA NAYkNA;FSkYAKA DDAYkNA;
    FdPAP+kA >YkNA;FMAwAP+kA >YkNA;FdPAP+kA DAYkNA;FMAwAP+kA DAYkNA;FDk>JA NAYkNA;@DB3;
    FSkYAKA DAYkNA;FdPAP+kA PAYkNA;FMAwAP+kA PAYkNA;FdPAP+kA BAYkNA;FMAwAP+kA BAYkNA;HYkNA;
    FAMBA BAYkNA;FYAYkNA;F+YkNA;@DBD;FDk>JA .YkNA;@DC0;FVAYkNA;F>dUJAmAYkNA;FMUURDwJAmAYkNA;
    FDk>JAmAYkNA;FwYkNA;FMUURDwJA .YkNA;FFAYkNA;@DCA;8=GN d-.KUNA;@DCF;8VOWELx AE.-PIL.;
    JKETt AEDA-PIL.;JDIGA AEDA-PIL.;JKETt IS-PIL.;JDIGA IS-PIL.;JKETt PAA-PIL.;@DD6;
    JDIGA PAA-PIL.;@DD8;JGAET>-PIL.;JKOMBUVA;JDIGA KOMBUVA;JKOMBU DEKA;OVA wA AE.-PIL.;
    VDIGA AE.-PIL.;VGAYkUKIT>;JGAYkUKIT>;@DE6;8LIz DIGIT ZjO;JnE;JTWO;KHvE;JFOUR;KIVE;J=X;KEVs;
    JEf;JNgE;@DF2;8VOWELx DIGA GAET>-PIL.;QYkUKIT>;8PUNCTUAtn KUNDDdIYA;@E01;
    0TwI CHeACTj KO KAI;GHO KwI;LUAT;LWAI;Ln;J+KHkG;FNGO NGU;FCHO CHk;LgG;LkG;FSOmO;FCHO CHOE;
    FYO YgG;FDO CwDA;FTO PA>K;GHO zk;JNkGMnzO;JPHUTwO;FNO Ns;FDO DEK;FTO >O;GHO zUNG;LAHk;LnG",
   "FNO NU;FBO BAIMAI;FPO P.;GHO PHUNG;FFO FA;FPHO PHk;FFO Fk;FPHOmAMPwO;FMO MA;FYO YAK;FRO RUA;
    GU;FLO LgG;GU;FWO WAs;FSOmdA;IRU=;ISUA;FHO HIP;FLO CHU.;FO kG;FHO NOKHUK;FPAIYkNOI;FSeA A;
    FMAI Hk-AKAT;FSeA AA;LM;KI;LI;KUE;ME;KU;LU;FPHgzU;@E3F;6URRsCY| BAHT;6HeACTjmeA E;KAE;KO;
    KAI MAIMUk;RdAI;F.KKHkGYAO;FMAIYAMOK;I>IKHU;I EK;JzO;KRI;JCwT>WA;FzkTwKwT;FNIKwHIT;FYAMAKKk;
    FFnGMk;5DIGIT ZjO;BnE;BTWO;CHvE;BFOUR;CIVE;B=X;CEVs;BEf;BNgE;5CHeACTj kGKHkKHU;FKHOMUT;@E81;
    0.O ,KO;CHOmUNG;@E84;F>M;@E86;BPdI Gw;BNGO;BCO;BPdI Cw;BSO >M;@E8C;BPdI Jw;BNYO;BPdI NYA;
    GT>;Iw;GDDA;Iw;GNNA;BDO;BTO;CHOmUNG;F>M;BPdI Dw;BNO;BBO;BPO;CHOmUNG;BFO >M;BPHO >M;BFOmUNG;
    BPdI Bw;BMO;BYO;BLO LgG;@EA5;FOOT;@EA7;BWO;BSkSKRITmw;LSA;COmUNG;BHOmUNG;BPdI L.;BO;BHO >M;
    4ELLIP=S;4VOWELx A;FMAI Kk;FAA;GM;FI;GI;FY;GY;FU;GU;4=GN PdI VI+MA;4VOWELx MAI Kn;
    4SEMIVOWELx LO;JNYO;@EC0;4VOWELx E;GI;FO;FAY;GI;@EC6;4KO .;@EC8;4TnyMAI EK;DzO;EI;DCA>WA;
    4CkCEL.tn MeK;4NIGGAHI>;@ED0;4DIGIT ZjO;AnE;ATWO;BHvE;AFOUR;BIVE;A=X;BEVs;AEf;ANgE;@EDC;
    4HO NO;7MO;4,KHMU GO;GNYO;@F00;0tBETkmYL.Bi OM;8MeK GTj YIG MGO TRUNCATErA;Q-UM RNAM BCArMA;
    UGTj TS<G MA;DgItd YIG MGO MDUN MA;DCLOS&YIG MGOmGAB MA;EeET YIG MGO PHURmwrMA;
    DYIG MGO TS<GmwrMA;DSBRULmwD;DBSKUR YIG MGO;EKA-mHOG YIG MGO;DgTjSYL.BIC TS<G;
    DDELIMITj TS<G BSTe;DSwD;DNYISmwD;DTS<GmwD;DNYIS TS<GmwD;DRg CHsmPUNGSmwD;EGYA G+MmwD;
    DCeET -DZUrR>GS MyLnG Ck;DGTj TS<G;8LOGOTYPEx CwrR>GS;MLwG R>GS;
    8ASTROLOGICdxmG+ GCk -CHe R>GS;Q-KHYUrPA;QSDnG TSHUGS;8=GN RDEL DKe GCIG;ONYIS;OSUM;
    INAG GCIG;NNYIS;IDKe RDEL NAG;8DIGIT ZjO;EnE;ETWO;FHvE;EFOUR;FIVE;E=X;FEVs;EEf;ENgE;EHdF nE;
    JTWO;KHvE;JFOUR;KIVE;J=X;KEVs;JEf;JNgE;JZjO;8MeK BSDUS R>GS;DNGAS BZUNG NYI Z.;
    DCeET -DZUrR>GS BZHI MIG Ck;DNGAS BZUNGmG^ R>GS;DCHyMGO;DTSA -PHRU;DGUG R>GS GYn;PAS;
    DkG KHkG GYn;PAS;8=GN Ye TS<S;DMe TS<S;8,KA;Gw;FGA;Gw;FNGA;FCA;Gw;FJA;@F49;FNYA;FT>;Hw;FDDA;
    Hw;FNNA;F>;Gw;FDA;Gw;FNA;FPA;Gw;FBA;Gw;FMA;FTSA;Hw;FDZA;Hw;FWA;FZw;GA;F-A;FYA;F+;F.;FSw;GSA;
    GA;Fw;FA;FKSSA;FFIXED-F^M +;FKKA;FR+;@F71;8VOWELx AA;JI;KI;JU;KU;JVOCdIC R;SR;RL;SL;JE;KE;
    JO;KO;8=GN RJESmU NGA RO;ENAM BCAD;8VOWELx vVjSErI;TI;8=GN NYI Z. NAA DA;DSNA LDk;8MeK Hdk>;
    DPdU>;8=GN LCI R>GS;DYkG R>GS;DLCyTSA Ck;DMCHU Ck;DGRU Ck RGYgGS;HMErRGYgGS;DgVjTErMCHU Ck;
    9UBJOgEDx LCyTSA Ck;NMCHU Ck;NgVjTErMCHU Ck;I,KA;Qw;PGA;Qw;PNGA;PCA;Qw;PJA;@F99;PNYA;PT>;Rw;
    PDDA;Rw;PNNA;P>;Qw;PDA;Qw;PNA;PPA;Qw;PBA;Qw;PMA;PTSA;Rw;PDZA;Rw;PWA;PZw;QA;P-A;PYA;P+;P.;
    PSw;QSA;QA;Pw;PA;PKSSA;PFIXED-F^M WA;Z YA;Z +;@FBE;8KU RU Kw;H BZHI MIG Ck;
    8CktL.tnx <AVY BEAT;QLf BEAT;QCkG TE-U;QSBUB -CHd;8SYMBOL DRIL BU;FRDO RJE;FPADMA GDk;
    FRDO RJyRGYA G+M;FPHUR PA;FN^ BU;L NYIS -KHYIL;MGSUM -KHYIL;MBZHI -KHYIL;@FCE;
    9IGN RDEL NAG RDEL DKe;MGSUM;8MeK BSKA-mHOG GI MGO RGYk;DMNYAM YIG GI MGO RGYk;DNYIS TS<G;
    DgItd BRDA RNY&YIG MGO MDUN MA;DCLOS&BRDA RNY&YIG MGOmGAB MA;0Rf-FACgGmVAStx;0*-FACgGmVAStx;
    0Rf-FACgGmVAStxb~S;0*-FACgGmVAStxb~S;0tBETk MeK iAD&MCHk R>GS;DT+IL&MCHk R>GS;@1000;
    0MYkMe ,KA;Gw;FGA;Gw;FNGA;FCA;Gw;FJA;Gw;FNYA;GNYA;FT>;Hw;FDDA;Hw;FNNA;F>;Gw;FDA;Gw;FNA;FPA;
    Gw;FBA;Gw;FMA;FYA;F+;F.;FWA;FSA;Fw;FL.;FA;FSHk A;FI;GI;FU;GU;FE;FMn E;FO;FAU;8VOWELx TdL AA;
    JAA;JI;KI;JU;KU;JE;JAI;JMn II;NO;JEo;8=GN kUSVeA;D~ !;DVISeGA;F+MA;DASAT;8CnSnkTx MEDId YA;
    U+;UWA;Uw;8,GvATmA;8DIGIT ZjO;EnE;ETWO;FHvE;EFOUR;FIVE;E=X;FEVs;EEf;ENgE;8=GN LITTimECtn;
    DSECtn;9YMBOL LOCAtVE;FCOMPiTED;FAFOvMstnED;FGsItVE;8iTTjmw;GSA;FVOCdIC R;OR;NL;OL;
    8VOWELx VOCdIC R;SR;RL;SL;8,Mn NGA;JJw;JBBA;LE;8CnSnkTx Mn MEDId NA;YMA;Y.;8iTTjmGAW Kesmw;
    8VOWELxmGAW Kes EU;8TnyMeKmGAW Kes wzI;TKyPHO;8,WESTjN PWO Kes Tw;XPWA",
   "8VOWELx WESTjN PWO Kes EU;ZN UE;8=GN WESTjN PWO Kes TnE-1;Z-2;Z-3;Z-4;Z-5;
    8,EASTjN PWO Kes NNA;XYWA;XGHWA;8VOWELx GEBA Kes I;JKAYAH OE;PU;PEE;8iTTjmHk KA;Lw;KGA;KCA;
    KZA;KNYA;KDA;KNA;KPw;KFA;KBA;KTw;Kw;8CnSnkTxmHk MEDId WA;8VOWELxmHk AA;OE;Po;OFgd Y;
    8=GNmHk TnE-2;N3;N5;N6;ICOUNCIL TnE-2;V3;QEMPwtC TnE;8,RUMAI PdAUNG FA;
    8=GN RUMAI PdAUNG TnE-5;9Hk DIGIT ZjO;JnE;JTWO;KHvE;JFOUR;KIVE;J=X;KEVs;JEf;JNgE;
    9IGN KwMt TnE-1;P3;8VOWELx AITn A;QI;8SYMBOLmHk nE;KEXC.MAtn;0GE^GIk cak;OBk;OGk;ODn;Os;OVg;
    OZs;OTk;Og;OKk;O.S;OMk;ONe;On;OPe;OZHe;O+E;OSk;OTe;OUN;OPHe;OKHe;OGHk;OQe;OSHg;OCHg;Pk;OJIL;
    OCIL;PHe;OXk;OJHk;OwE;PE;PIE;OWE;OHe;POE;@10C7;OYN;@10CD;OAs;@10D0;9,k;GBk;GGk;GDn;Gs;GVg;
    GZs;GTk;Gg;GKk;G.S;GMk;GNe;Gn;GPe;GZHe;G+E;GSk;GTe;GUN;GPHe;GKHe;GGHk;GQe;GSHg;GCHg;Hk;GJIL;
    GCIL;HHe;GXk;GJHk;GwE;HE;HIE;GWE;GHe;HOE;GFI;GYN;GELIFI;GTURNErGk;GAg;9PeAG+PHmEPeAT^;
    0MODIFIj ,GE^GIk Ne;0GE^GIk ,As;GHeDx;G.BIdx;0HkGUL CHOSEnG KIYEOK;GSSkGKIYEOK;GNIEUN;
    GtKEUT;GSSkGtKEUT;GRIEUL;GMIEUM;GPIEUP;GSSkGPIEUP;HIOS;HSkG=OS;GIEUNG;GCIEUC;GSSkGCIEUC;
    GCHIEUCH;GKHIEUKH;GzIEUz;GPHIEUPH;GHIEUH;GNIEUN-KIYEOK;GSSkGNIEUN;GNIEUN-tKEUT;MPIEUP;
    GtKEUT-KIYEOK;GRIEUL-NIEUN;GSSkGRIEUL;GRIEUL-HIEUH;GKAPYEOUNRIEUL;GMIEUM-PIEUP;
    GKAPYEOUNMIEUM;GPIEUP-KIYEOK;MNIEUN;MtKEUT;M=OS;Q-KIYEOK;RtKEUT;RPIEUP;NSkG=OS;NIOS-CIEUC;
    MCIEUC;NHIEUCH;MzIEUz;MPHIEUPH;GKAPYEOUNPIEUP;OSSkGPIEUP;G=OS-KIYEOK;LNIEUN;LtKEUT;LRIEUL;
    LMIEUM;LPIEUP;Q-KIYEOK;LSSkG=OS;LIEUNG;LCIEUC;MHIEUCH;LKHIEUKH;LzIEUz;LPHIEUPH;LHIEUH;
    GCHITUEUM=OS;PSkG=OS;HEnGCHIEUM=OS;SSkG=OS;GPk=OS;GIEUNG-KIYEOK;MtKEUT;MMIEUM;MPIEUP;M=OS;
    MPk=OS;GSSkGIEUNG;GIEUNG-CIEUC;NHIEUCH;MzIEUz;MPHIEUPH;GYE=EUNG;GCIEUC-IEUNG;HHITUEUMCIEUC;
    OSSkGCIEUC;HEnGCHIEUMCIEUC;RSSkGCIEUC;HHIEUCH-KHIEUKH;OHIEUH;JTUEUMCHIEUCH;
    HEnGCHIEUMCHIEUCH;GPHIEUPH-PIEUP;GKAPYEOUNPHIEUPH;GSSkGHIEUH;GYE^gHIEUH;GKIYEOK-tKEUT;
    GNIEUN-=OS;MCIEUC;MHIEUH;GtKEUT-RIEUL;GFILiR;7JUNGSEnG FILiR;HA;IE;HYA;JE;HEO;HE;HYEO;IE;HO;
    HWA;JE;HOE;HYO;HU;HWEO;IE;II;HYU;HEU;HYI;HI;HA-O;JU;HYA-O;KYO;HEO-O;KU;KEU;HYEO-O;LU;HO-EO;
    JE;JYE;JO;JU;HYO-YA;ME;LEO;KO;KI;HU-A;KE;JEO-EU;JYE;JU;HYU-A;KEO;KE;KYEO;LE;KU;KI;HEU-U;KEU;
    HYI-U;HI-A;JYA;JO;JU;JEU;JeAEA;HeAEA;M-EO;NU;NI;HSSkGeAEA;HA-EU;HYA-U;IEO-YA;HO-YA;LE;
    8nGSEnG KIYEOK;HSSkGKIYEOK;HKIYEOK-=OS;HNIEUN;M-CIEUC;NHIEUH;HtKEUT;HRIEUL;M-KIYEOK;NMIEUM;
    NPIEUP;N=OS;NzIEUz;NPHIEUPH;NHIEUH;HMIEUM;HPIEUP;M-=OS;H=OS;ISkG=OS;HIEUNG;HCIEUC;IHIEUCH;
    HKHIEUKH;HzIEUz;HPHIEUPH;HHIEUH;HKIYEOK-RIEUL;O=OS-KIYEOK;HNIEUN-KIYEOK;NtKEUT;N=OS;NPk=OS;
    NzIEUz;HtKEUT-KIYEOK;ORIEUL;HRIEUL-KIYEOK-=OS;NNIEUN;NtKEUT;T-HIEUH;HSSkGRIEUL;
    HRIEUL-MIEUM-KIYEOK;T=OS;NPIEUP-=OS;THIEUH;NKAPYEOUNPIEUP;NSSkG=OS;NPk=OS;NKHIEUKH;
    NYE^gHIEUH;HMIEUM-KIYEOK;NRIEUL;NPIEUP;N=OS;OSkG=OS;NPk=OS;NCHIEUCH;NHIEUH;HKAPYEOUNMIEUM;
    HPIEUP-RIEUL;NPHIEUPH;NHIEUH;HKAPYEOUNPIEUP;H=OS-KIYEOK;MtKEUT;MRIEUL;MPIEUP;HPk=OS;
    HIEUNG-KIYEOK;NSSkGKIYEOK;HSSkGIEUNG;HIEUNG-KHIEUKH;HYE=EUNG;P-=OS;QPk=OS;HPHIEUPH-PIEUP;
    HKAPYEOUNPHIEUPH;HHIEUH-NIEUN;NRIEUL;NMIEUM;NPIEUP;HYE^gHIEUH;HKIYEOK-NIEUN;OPIEUP;OCHIEUCH;
    OKHIEUKH;OHIEUH;HSSkGNIEUN;0EzIOPICmYL.Bi w;JU;JI;JAA;JEE;JE;JO;KA;I.;JU;JI;JAA;JEE;JE;JO;
    JWA;IHw;KU;KI;KAA;KEE;KE;KO;KWA;IMA;JU;JI;JAA;JEE;JE;JO;JWA;ISZA;KU;KI;KAA;KEE;KE;KO;KWA;I+;
    JU;JI;JAA;JEE;JE;JO;JWA;ISA;JU;JI;JAA;JEE;JE;JO;JWA;Jw;KU;KI;KAA;KEE;KE;KO;KWA;IQA;JU;JI;
    JAA;JEE;JE;JO;KA;JWA;@124A;KI;KAA;KEE;KE;@1250;Jw;KU;KI;KAA;KEE;KE;KO;@1258;KWA;@125A;LI;
    LAA;LEE;LE;@1260;IBA;JU;JI;JAA;JEE;JE;JO;JWA;IVA;JU;JI;JAA;JEE;JE;JO;JWA;I>;JU;JI;JAA;JEE;
    JE;JO;JWA;ICA;JU;JI;JAA;JEE;JE;JO;JWA;IXA;JU;JI;JAA;JEE;JE;JO;KA;JWA;@128A;KI;KAA;KEE;KE",
   "@1290;INA;JU;JI;JAA;JEE;JE;JO;JWA;JYA;KU;KI;KAA;KEE;KE;KO;KWA;IGLOTTd A;QU;QI;QAA;QEE;QE;QO;
    QWA;IKA;JU;JI;JAA;JEE;JE;JO;KA;JWA;@12B2;KI;KAA;KEE;KE;@12B8;JXA;KU;KI;KAA;KEE;KE;KO;@12C0;
    KWA;@12C2;LI;LAA;LEE;LE;@12C8;IWA;JU;JI;JAA;JEE;JE;JO;KA;IPHeYNGEd A;TU;TI;TAA;TEE;TE;TO;
    @12D8;IZA;JU;JI;JAA;JEE;JE;JO;JWA;Jw;KU;KI;KAA;KEE;KE;KO;KWA;IYA;JU;JI;JAA;JEE;JE;JO;KA;IDA;
    JU;JI;JAA;JEE;JE;JO;JWA;JDA;KU;KI;KAA;KEE;KE;KO;KWA;IJA;JU;JI;JAA;JEE;JE;JO;JWA;IGA;JU;JI;
    JAA;JEE;JE;JO;KA;JWA;@1312;KI;KAA;KEE;KE;@1318;JGA;KU;KI;KAA;KEE;KE;KO;KWAA;ITw;KU;KI;KAA;
    KEE;KE;KO;KWA;ICw;KU;KI;KAA;KEE;KE;KO;KWA;IPw;KU;KI;KAA;KEE;KE;KO;KWA;ITSA;KU;KI;KAA;KEE;KE;
    KO;KWA;JZA;KU;KI;KAA;KEE;KE;KO;LA;IFA;JU;JI;JAA;JEE;JE;JO;JWA;IPA;JU;JI;JAA;JEE;JE;JO;JWA;
    IRYA;IMYA;IFYA;@135D;9COMBg&GEMgAtn?VOWEL iNGz MeK;JVOWEL iNGz MeK;JGEMgAtn MeK;9SECtn MeK;
    9W^DSPACE;9FULLmTOP;9COMMA;9SEMICOLn;9COLn;9PvFACyCOLn;9QUEStn MeK;9PeAG+PHmEPeAT^;
    9DIGIT nE;FTWO;GHvE;FFOUR;GIVE;F=X;GEVs;FEf;FNgE;9NUMBj Ts;HWsTY;HHIRTY;GF^TY;HIFTY;G=XTY;
    HEVsTY;GEfY;GNgETY;GHUNDvD;GTs zOUSkD;@1380;9SYL.BimEBATBEIT MWA;IMWI;KEE;KE;ISEBATBEIT BWA;
    IBWI;KEE;KE;ISEBATBEIT FWA;IFWI;KEE;KE;ISEBATBEIT PWA;IPWI;KEE;KE;9Tnd MeK YIZET;KDjET;
    KRIKRIK;KSH^T RIKRIK;KDIFAT;KKsAT;KCHIvT;KHIDET;KDjET-HIDET;KKURT;@13A0;0CHjOKEy,A;GE;GI;GO;
    GU;GV;GGA;GKA;GGE;HI;HO;HU;HV;Gw;HE;HI;HO;HU;HV;G.;HE;HI;HO;HU;HV;GMA;HE;HI;HO;HU;GNA;GHNA;
    GNAH;HE;HI;HO;HU;HV;GQUA;IE;II;IO;IU;IV;GSA;GS;HE;HI;HO;HU;HV;GDA;G>;GDE;GTE;GDI;Gt;GDO;HU;
    HV;H.;GT.;IE;II;IO;IU;IV;HSA;IE;II;IO;IU;IV;GWA;HE;HI;HO;HU;HV;GYA;HE;HI;HO;HU;HV;GMV;@13F8;
    9qYE;NI;NO;NU;NV;MMV;@1400;1kADIkmYL.BICS HYPHs;JE;JAAI;JI;KI;JO;KO;JY-CvyOO;JCeRIj EE;RI;
    JA;KA;JWE;LST-CvyWE;KI;KEST-CvyWI;KII;KEST-CvyWII;KO;KEST-CvyWO;KOO;KEST-CvyWOO;
    JNASKAPI WOO;JWA;KEST-CvyWA;KAA;KEST-CvyWAA;JNASKAPI WAA;JAI;JY-CvyW;JGLOTTdmTOP;JFgd ACUTE;
    PG+VE;PBOTTOM HdF RgG;PTOP HdF RgG;PRf HdF RgG;RNG;P% ACUTE;WSH^T VjtCdmTROKES;PMIDDi ~;
    PSH^T H^IZnTdmTROKE;PPLUS;PDOWN >CK;Js;Jg;Jn;Jk;JPE;KAAI;KI;LI;KO;LO;JY-CvyPOO;JCeRIj <E;SI;
    JPA;LA;KWE;JWEST-CvyPWE;JPWI;JWEST-CvyPWI;JPWII;JWEST-CvyPWII;JPWO;JWEST-CvyPWO;JPWOO;
    JWEST-CvyPWOO;JPWA;JWEST-CvyPWA;JPWAA;JWEST-CvyPWAA;JY-CvyPWAA;JP;JWEST-CvyP;JCeRIj H;JTE;
    KAAI;KI;LI;KO;LO;JY-CvyTOO;JCeRIj DEE;SI;J>;LA;KWE;JWEST-CvyTWE;JTWI;JWEST-CvyTWI;JTWII;
    JWEST-CvyTWII;JTWO;JWEST-CvyTWO;JTWOO;JWEST-CvyTWOO;JTWA;JWEST-CvyTWA;JTWAA;JWEST-CvyTWAA;
    JNASKAPI TWAA;JT;KTE;LI;LO;LA;JKE;KAAI;KI;LI;KO;LO;JY-CvyKOO;JKA;LA;KWE;JWEST-CvyKWE;JKWI;
    JWEST-CvyKWI;JKWII;JWEST-CvyKWII;JKWO;JWEST-CvyKWO;JKWOO;JWEST-CvyKWOO;JKWA;JWEST-CvyKWA;
    JKWAA;JWEST-CvyKWAA;JNASKAPI KWAA;JK;KW;JSOUz-S.VEY KEH;XIH;XOH;XAH;JCE;KAAI;KI;LI;KO;LO;
    JY-CvyCOO;JCA;LA;KWE;JWEST-CvyCWE;JCWI;JWEST-CvyCWI;JCWII;JWEST-CvyCWII;JCWO;JWEST-CvyCWO;
    JCWOO;JWEST-CvyCWOO;JCWA;JWEST-CvyCWA;JCWAA;JWEST-CvyCWAA;JNASKAPI CWAA;JC;JSAYI= z;JME;
    KAAI;KI;LI;KO;LO;JY-CvyMOO;JMA;LA;KWE;JWEST-CvyMWE;JMWI;JWEST-CvyMWI;JMWII;JWEST-CvyMWII;
    JMWO;JWEST-CvyMWO;JMWOO;JWEST-CvyMWOO;JMWA;JWEST-CvyMWA;JMWAA;JWEST-CvyMWAA;JNASKAPI MWAA;
    JM;JWEST-CvyM;JMH;JATwPASCk M;JSAYI= M;JNE;KAAI;KI;LI;KO;LO;JY-CvyNOO;JNA;LA;KWE;
    JWEST-CvyNWE;JNWA;JWEST-CvyNWA;JNWAA;JWEST-CvyNWAA;JNASKAPI NWAA;JN;JCeRIj NG;JNH;Ji;KAAI;
    KI;LI;KO;LO;JY-CvyLOO;J.;LA;KWE;JWEST-CvyLWE;JLWI;JWEST-CvyLWI;JLWII;JWEST-CvyLWII;JLWO;
    JWEST-CvyLWO;JLWOO;JWEST-CvyLWOO;JLWA;JWEST-CvyLWA;JLWAA;JWEST-CvyLWAA;JL;JWEST-CvyL;
    JMEDId L;JSE;KAAI;KI;LI;KO;LO;JY-CvEmOO;JSA;LA;KWE;JWEST-CvEmWE;JSWI;JWEST-CvEmWI;JSWII;
    JWEST-CvEmWII;JSWO;JWEST-CvEmWO;JSWOO;JWEST-CvEmWOO;JSWA;JWEST-CvEmWA;JSWAA;JWEST-CvEmWAA;
    JNASKAPImWAA;JS;JATwPASCkm;JSW;JB.CKFOOTm;JMOOSE-CvEmK;JNASKAPImKW;S-W;SPWA;STWA;SKWA;SCWA",
   "JS<;LI;MI;LO;MO;LA;MA;LWE;JWEST-CvEmHWE;JSHWI;JWEST-CvEmHWI;JSHWII;JWEST-CvEmHWII;JSHWO;
    JWEST-CvEmHWO;JSHWOO;JWEST-CvEmHWOO;JSHWA;JWEST-CvEmHWA;JSHWAA;JWEST-CvEmHWAA;JSH;JYE;KAAI;
    KI;LI;KO;LO;K-CvyYOO;KA;LA;KWE;JWEST-CvyYWE;JYWI;JWEST-CvyYWI;JYWII;JWEST-CvyYWII;JYWO;
    JWEST-CvyYWO;JYWOO;JWEST-CvyYWOO;JYWA;JWEST-CvyYWA;JYWAA;JWEST-CvyYWAA;JNASKAPI YWAA;JY;
    JBIBi-CvyY;JWEST-CvyY;JSAYI= YI;Jv;K-Cvyv;JWEST-Cvyi;J+AI;KI;LI;KO;LO;JWEST-CvyLO;J+;LA;
    JWEST-Cvy.;JRWAA;JWEST-CvyRWAA;JR;JWEST-CvyR;JMEDId R;JFE;KAAI;KI;LI;KO;LO;KA;LA;KWAA;
    JWEST-CvyFWAA;JF;JzE;JN-CvyzE;JzI;JN-CvyzI;JzII;JN-CvyzII;JzO;MO;LA;MA;LWAA;JWEST-CvyzWAA;
    Jz;KzE;MI;MO;MA;LH;KYE;LI;LO;LA;JNUNAVIK <;SI;TI;SO;TO;SA;TA;RH;OUT H;JHK;JQAAI;KI;LI;KO;LO;
    KA;LA;JQ;JTL<;MI;MO;MA;JWEST-Cvyv;UI;UO;UA;JNGAAI;LI;MI;LO;MO;LA;MA;KG;KNG;JSAYI=m<;SI;SO;
    SA;JWOODS-CvyzE;WI;WO;WA;VH;JLHI;MI;LO;MO;LA;MA;KH;Jz-CvyzE;TI;UI;TO;UO;TA;UA;SH;JAIVILIK B;
    JB.CKFOOT E;TI;TO;TA;TWE;UI;UO;UA;TNE;UI;UO;UA;TKE;UI;UO;UA;JSAYI= <;RI;RO;RA;JCeRIj GHU;TO;
    TE;UE;TI;TA;RRU;SO;SE;TE;SI;SA;RWU;SO;SE;TE;SI;SA;RHWU;TO;TE;UE;TI;TA;RzU;TO;TE;UE;TI;TA;
    STU;TO;TE;UE;TI;TA;RPU;SO;SE;TE;SI;SA;RP;RGU;SO;SE;TE;SI;SA;RKHU;TO;TE;UE;TI;TA;SKU;TO;TE;
    UE;TI;TA;SK;RNU;SO;SE;TE;SI;SA;RMU;SO;SE;TE;SI;SA;RYU;SO;SE;TE;SI;SA;RJU;JSAYI= JU;
    JCeRIj JO;SE;TE;SI;JSAYI= JI;JCeRIj JA;SJU;TO;TE;UE;TI;TA;RLU;SO;SE;TE;SI;SA;RDLU;TO;TE;UE;
    TI;TA;RLHU;TO;TE;UE;TI;TA;RTLHU;UO;UE;VE;UI;UA;TU;TO;TE;UE;TI;TA;RZU;SO;SE;TE;SI;SA;RZ;
    RgItd Z;RDZU;TO;TE;UE;TI;TA;RSU;SO;SE;TE;SI;SA;SHU;TO;TE;UE;TI;TA;SH;RTSU;TO;TE;UE;TI;TA;
    RCHU;TO;TE;UE;TI;TA;RTTSU;UO;UE;VE;UI;UA;KHIx;JFULLmTOP;JQAI;JNGAI;KNGI;NI;MO;NO;MA;NA;
    JWOODS-CvyzWEE;XI;YI;XO;YO;XA;YA;UFgd z;JB.CKFOOT W;0OGwMmPACyMeK;6,BEIz;DLUIS;DFEeN;DSAIL;
    DNIn;DUAz;DDAIR;DTgNE;DCOLL;EEIRT;DMUg;DG^T;DNGEADd;DST+IF;DRUIS;DAILM;DnN;DUR;DEADwDH;
    DIODwDH;DEABwDH;D^;DUILikN;DIFg;DEAMHkCHOLL;DPEIz;6FEAzj MeK;6vVjSErFEAzj MeK;@16A0;
    0RUNIC ,FEHU FEOH FyF;DV;DURUZ UR U;DYR;DY;DW;DzURISAZ zURS z^N;DEz;DkSUZ A;DOS O;DAC A;
    EESC;DLnG-BRkCH-OSS O;DSH^T-TWIG-OSS O;DO;EE;EN;D+IDO +rvIrR;DKAUNA;DCs;DKAUN K;DG;DsG;
    DGEBO GYFU G;Ee;DWUNJO WYNN W;DwG.Z H;FEGL H;DLnG-BRkCH-wGdL H;DSH^T-TWIG-wGdL H;
    DNAUDIZ NYrNAUrN;DSH^T-TWIG-NAUrN;D~TED-N;DISAZ IS ISS I;DE;DJjk J;DGj;DLnG-BRkCH-e AE;
    DSH^T-TWIG-e A;DIWAZ EOH;DPjzO PE^z P;DdGIZ EOLHX;DSOWILOm;EIGEL LnG-BRkCH-SOLm;
    EH^T-TWIG-SOLm;DC;DZ;DtWAZ tR TYR T;DSH^T-TWIG-TYR T;DD;DBjKkk BE^C BJeKk B;
    DSH^T-TWIG-BJeKk B;D~TED-P;DOPs-P;DEHWAZ EH E;DMkNAZ Mk M;DLnG-BRkCH-MADR M;
    DSH^T-TWIG-MADR M;D.UKAZ .GU LOGR L;D~TED-L;DgGWAZ;FG;DDAGAZ DAEG D;DOzdk EzEL O;DEe;DI^;
    DCWE^z;EdC;EEdC;DSTk;DLnG-BRkCH-YR;DSH^T-TWIG-YR;DICELkDIC-YR;DQ;DX;6SgGi PUNCTUAtn;
    6MULtPi PUNCTUAtn;6CROSS PUNCTUAtn;6e.UG|;6TVIMADUR|;6BELGz^|;6,K;DSH;DOO;DFRkKS CASKET OS;
    RIS;REH;RAC;SESC;@1700;0>GdOG ,A;FI;FU;FKA;FGA;FNGA;F>;FDA;FNA;FPA;FBA;FMA;FYA;F+;F.;FWA;
    FSA;Fw;8VOWELx I;JU;8=GN VI+MA;DPAMUDPOD;@171F;8,eCwIC +;0HkUNOO ,A;FI;FU;FKA;FGA;FNGA;F>;
    FDA;FNA;FPA;FBA;FMA;FYA;F+;F.;FWA;FSA;Fw;8VOWELx I;JU;8=GN PAMUDPOD;
    0PHILIPPgEmgGi PUNCTUAtn;B% PUNCTUAtn;@1740;0BUHIr,A;DI;DU;DKA;DGA;DNGA;D>;DDA;DNA;DPA;DBA;
    DMA;DYA;D+;D.;DWA;DSA;Dw;6VOWELx I;HU;@1760;0>GBkWA ,A;GI;GU;GKA;GGA;GNGA;G>;GDA;GNA;GPA;
    GBA;GMA;GYA;@176E;G.;GWA;GSA;@1772;9VOWELx I;KU;@1780;0KHMj ,KA;Ew;EO;EHO;DNGO;DCA;Ew;EO;
    EHO;DNYO;DDA;DTTw;DDO;DTzO;DNNO;D>;Ew;EO;EHO;DNO;DBA;DPw;EO;EHO;DMO;DYO;DRO;DLO;DVO;DSw;ESO;
    EA;Dw;D.;DQA;6gDEPsDsT VOWEL QAQ;QA;PI;QI;PU;QK;QU;RV;ORY;QY;OLY;QY;OQE;PAI;POO TYPynE;XTWO;
    PAU;6VOWEL gHjsT AQ;MA;C=GN AA;HI;II;HY;IY;HU;IU;IA;HOE;HYA;HIE;HE;HAE;II;HOO;HAU",
   "6=GN NIKAHIT;BvAHMUK;BYUUKdEAPgTU;BMUU=KATOk;BTRIISAP;BBkTOC;BROBAT;BTOkDAKHIAT;BKAKABAT;
    BAHSDA;BSAMYOKmkNYA;BVIRIAM;BCOsG;BBATwMASAT;BKHk;BBeIYOOSk;BCAMNUC PII KUUH;BiK TOO;BBEYYd;
    BPHNAEK MUk;BKOOMUUT;6CURRsCY| RIEL;6=GN AVAK+wSkYA;CTTwCk;@17E0;6DIGIT ZjO;CnE;CTWO;DHvE;
    CFOUR;DIVE;C=X;DEVs;CEf;CNgE;@17F0;6SYMBOL iK AT>Kmn;NMUOY;NPII;NBEI;OUn;NP+M;R-MUOY;SPII;
    SBEI;TUn;@1800;0MnGOLIk BIRGA;AELLIP=S;ACOMMA;AFULLmTOP;ACOLn;AFOUR ~S;ATODOmOFT HYPHs;
    A=BEmYL.Bi BOUNDeY MeKj;AMkCHU COMMA;HFULLmTOP;ANIRUGU;AFvyVeIAtnmEiCT^ nE;YTWO;ZHvE;
    AVOWELmEPeAT^;AFvyVeIAtnmEiCT^ FOUR;ADIGIT ZjO;GnE;GTWO;HHvE;GFOUR;HIVE;G=X;HEVs;GEf;GNgE;
    @1820;A,A;HE;HI;HO;HU;HOE;HUE;HEE;HNA;HkG;HBA;HPA;HQA;HGA;HMA;H.;HSA;Iw;H>;HDA;HCw;HJA;HYA;
    H+;HWA;HFA;HKA;Iw;HTSA;HZA;HwA;HZ+;HLw;HZHI;HCHI;HTODO LnG VOWELx;ME;MI;MO;MU;MOE;MUE;MkG;
    MBA;MPA;MQA;MGA;MMA;M>;MDA;MCw;MJA;MTSA;MYA;MWA;MKA;MGAA;MwA;MJIA;MNIA;MDZA;H=ByE;MI;NY;MUE;
    MU;MkG;MKA;MGA;Mw;MPA;MSw;M>;MDA;MJA;MFA;MGAA;MwA;MTSA;MZA;M+A;MCw;MZw;HMkCHU I;OKA;O+;OFA;
    OZw;HCwbTWO ~S;@1880;HdI GdI kUSVeA nE;QVISeGA nE;QDAMeU;QUBADAMA;QgVjTErUBADAMA;QBdUDA;
    QzvyBdUDA;QA;QI;QKA;QNGA;QCA;QT>;Sw;QDDA;QNNA;Q>;QDA;QPA;Rw;QSSA;QZw;RA;QAH;HTODO dI GdI >;
    VZw;HMkCHU dI GdI Gw;XNGA;XCA;XJw;XT>;XDDw;X>;XDw;XSSA;XCYA;XZw;YA;HdI GdI HdF U;VYA;
    HMkCHU dI GdI Bw;HdI GdI DAGdGA;HMkCHU dI GdI Lw;@18B0;0CkADIkmYL.BICS OY;JAY;KAY;JWAY;JPOY;
    KAY;KWOY;J>Y;JKAY;KWAY;JMAY;JNOY;KAY;J.Y;JSOY;KAY;KHOY;LAY;LWOY;JYOY;KAY;J+Y;JNWI;
    JOJIBWAY NWI;JNWII;JOJIBWAY NWII;JNWO;JOJIBWAY NWO;JNWOO;JOJIBWAY NWOO;JRWEE;LI;MI;LO;MO;LA;
    JOJIBWAY P;RT;RK;RC;RM;RN;RS;SH;JEASTjN W;JWESTjN W;JFgdmMdL RgG;P+ISEr~;JR-CvyRWE;
    JWEST-CvyLOO;UAA;JzWE;MA;KzWE;MOO;MAA;KLHWE;MOO;JSAYI=mHWE;SOO;QHOO;JCeRIj GWU;RDsyGEE;RGAA;
    SWA;JSAYI= JUU;JCeRIj JWA;JBEAVj DsyL;VR;JCeRIj DsTdm;@1900;0LIMBU VOWEL-CeRIj iTTj;6,KA;Ew;
    DGA;Ew;DNGA;DCA;Ew;DJA;Ew;DYk;D>;Ew;DDA;Ew;DNA;DPA;Ew;DBA;Ew;DMA;DYA;D+;D.;DWA;DSw;ESA;EA;
    Dw;DGYk;DT+;@1920;6VOWELx A;HI;HU;HEE;HAI;HOO;HAU;HE;HO;6SUBJOgEr,YA;N+;NWA;@1930;7MdaKA;
    JNGA;JkUSVeA;J>;JNA;JPA;JMA;J+;J.;7IGN MUKPHRsG;BKEMPHRsG;BSA-I;@1940;BLOO;@1944;
    6EXC.MAtn MeK;6QUEStn MeK;6DIGIT ZjO;CnE;CTWO;DHvE;CFOUR;DIVE;C=X;DEVs;CEf;CNgE;0>I i ,KA;
    EXA;ENGA;ETSA;ESA;EYA;E>;Fw;E.;EPA;Fw;EMA;EFA;EVA;Ew;EQA;EKw;ETSw;ENA;EA;EI;EEE;FH;EU;EOO;
    EO;EUE;EE;EAUE;FI;@1970;ETnE-2;J3;J4;J5;J6;@1980;0NEW >I LUy,HIGH QA;JLOW QA;JHIGH KA;OXA;
    ONGA;JLOW KA;NXA;NNGA;JHIGH TSA;OSA;OYA;JLOW TSA;NSA;NYA;JHIGH >;Pw;ONA;JLOW >;Ow;NNA;
    JHIGH PA;Pw;OMA;JLOW PA;Ow;NMA;JHIGH FA;OVA;O.;JLOW FA;NVA;N.;JHIGH w;ODA;OBA;JLOW w;NDA;
    NBA;JHIGH KVA;OXVA;JLOW KVA;NXVA;JHIGHmUA;JLOWmUA;@19B0;CVOWELx VOWELmH^Tsj;NAA;NII;NU;OU;
    NE;NAE;NO;OA;NUE;NAY;OAY;NUY;NOY;OAY;NUEY;NIY;C,Fgd V;PNG;PN;PM;PK;PD;PB;CTnyMeK-1;M2;@19D0;
    CDIGIT ZjO;InE;ITWO;JHvE;IFOUR;JIVE;I=X;JEVs;IEf;INgE;CTwM DIGIT nE;@19DE;C=GN .E;KV;
    0KHMj| PATwMASAT;DMUOY KOET;DPII KOET;DBEI KOET;EUn KOET;DP+M KOET;H-MUOY KOET;IPII KOET;
    IBEI KOET;JUn KOET;DDAP KOET;G-MUOY KOET;HPII KOET;HBEI KOET;IUn KOET;HP+M KOET;DTUTEYASAT;
    DMUOY ROC;DPII ROC;DBEI ROC;EUn ROC;DP+M ROC;H-MUOY ROC;IPII ROC;IBEI ROC;JUn ROC;DDAP ROC;
    G-MUOY ROC;HPII ROC;HBEI ROC;IUn ROC;HP+M ROC;0BUGgESy,KA;GGA;GNGA;IKA;GPA;GBA;GMA;HPA;G>;
    GDA;GNA;H+;GCA;GJA;GNYA;ICA;GYA;G+;G.;GVA;GSA;GA;Gw;9VOWELx I;KU;KE;KO;KAE;@1A1E;9Pd.WA;
    9srOFmECtn;0>I TwM ,HIGH KA;Mw;MXA;GLOW KA;LXA;Lw;GNGA;GHIGH CA;Mw;GLOW CA;KSA;KCw;GNYA;G+>;
    GHIGH +Tw;GDA;GLOW +Tw;GRkA;GHIGH >;Mw;GLOW >;Lw;GNA;GBA;GHIGH PA;Mw;LFA;GLOW PA;KFA;KPw;
    GMA;GLOW YA;GHIGH YA;G+;HUE;G.;HUE;GWA;GHIGHmw;MSA;MA;Lw;GL.;GA;GLOW w;GI;HI;GU;HU;GEE;GOO;
    G.E;GGvATmA;9CnSnkTx MEDId +;V.;O. TkG .I;9=GN MAI KkG .I;9CnSnkTx Fgd NGA;OLOW PA",
   "OHIGH +Tw ^ LOW PA;OMA;OBA;OSA;@1A60;9=GNmAKOT;9VOWELx A;KMAImAT;KAA;KTdL AA;KI;LI;KUE;LUE;
    KU;LU;KO;LA !;LY;KE;KAE;KOO;KAI;KTwM AI;KOAo;9=GN MAI KkG;ETnE-1;J2;EKHUs TnE-3;P4;P5;
    E+ wAM;EMAImAM;EKHUs-LUyKek;@1A7F;9COMBg&CRYPTOG+MMIC ~;9HO+ DIGIT ZjO;KnE;KTWO;LHvE;KFOUR;
    LIVE;K=X;LEVs;KEf;KNgE;@1A90;9TwM DIGIT ZjO;KnE;KTWO;LHvE;KFOUR;LIVE;K=X;LEVs;KEf;KNgE;
    @1AA0;9=GN WIkG;JWAAK;ESAWk;EKEOW;EHOY;EDOKMAI;EvVjSErRO>TErRkA;EMAI YAMOK;EKAk;IKUU;
    ESATKAk;LKUU;EHkG;ECAkG;@1AB0;0COMBg&%r_UMFiX ACCsT;BIAjE=S-RgG;AgFgITY;ADOWNul;ATRIPi ~;
    AX-X !;AWIGGLY Lgy!;AOPs MeK !;A% OPs MeK !;ALf CsTRdIZAtnmTROKy!;ASTRnG CsTRdIZAtnmTROKy!;
    APeszESESo;A% PeszESESo;APeszESES !;MOVj.Y;A.TgmMdaW !;TTURNErW !;BEFT PeszE=So *;
    ARf PeszE=So Rf;A* PeszE=S ! *;ARf PeszE=S ! Rf;ASQUeyB+CKETSo;ANUMBjxo;AgVjTEr% eCHo;
    APLUSxo;A% PLUSxo;R!;ATRIPi ACUTyACCsT;A.TgmMdagSULe G;ZR R;ZR T;@1B00;0BdgESEx ULU RICEM;
    ICkD+;ECECEK;ESURkG;EBISAH;9,AKeA;L TEDUNG;GIKeA;L TEDUNG;GUKeA;L TEDUNG;G+ vPA;N TEDUNG;
    G. iNGA;O TEDUNG;GEKeA;GAIKeA;GOKeA;L TEDUNG;GKA;I MAwPRkA;GGA;I GO+;GNGA;GCA;I .CA;GJA;
    I JjA;GNYA;G> .tK;JMURDA MAwPRkA;GDA MURDA dPAPRkA;PMAwPRkA;GNA +MBAT;G>;I >WA;GDA;I MADU;
    GNA;GPA;I KAPd;GBA;I KEMBkG;GMA;GYA;G+;G.;GWA;GSAmAGA;LPA;HA;Gw;9=GN RjEKk;9VOWELx TEDUNG;
    KULU;NmeI;KSUKU;O ILUT;K+ vPA;R TEDUNG;K. iNGA;S TEDUNG;KTdgG;Q vPA;RTEDUNG;RvPA TEDUNG;
    KPEPET;P TEDUNG;9ADEG ADEG;9,KAFmASAK;HHOTmASAK;GTZIRmASAK;GEFmASAK;GVEmASAK;GZdmASAK;
    GASYU+mASAK;HRCwIC JNYA;@1B50;9DIGIT ZjO;FnE;FTWO;GHvE;FFOUR;GIVE;F=X;GEVs;FEf;FNgE;9Pkt;
    BMADA;9WgDU;9CeIK PAMUNGKAH;F=KI;FPejs;9PAMssG;9MU=Cd| DnG;PsG;PUNG;PkG;SmURkG;PgG;PAsG;
    PEUNG;PAgG;QNG GEDE;OCOMBg&TEGEH;YsDEP;YKEMPUL;ZEMPLI;YJEGOGk;YKEMPULbJEGOGk;ZEMPLIbJEGOGk;
    YBsDE;YGnG;ORf-HkrOPs DUG;ZOPs DAG;ZCLOSErTUK;ZCLOSEr>K;O*-HkrOPs PkG;ZPs PUNG;YCLOSErP.K;
    ZLOSErPLUK;YOPs PgG;9Pkt LkTkG;BMADA LkTkG;@1B80;0SUNDkESEx PkYECEK;IG.Ye;JWISAD;A,A;HI;HU;
    HAE;HO;HE;IU;HKA;HQA;HGA;HNGA;HCA;HJA;HZA;HNYA;H>;HDA;HNA;HPA;HFA;HVA;HBA;HMA;HYA;H+;H.;HWA;
    HSA;HXA;Hw;ACnSnkTx PAMgGKd;RNYAK+;TIKU;AVOWELx PkGHULU;OYUKU;OAE.sG;OOLnG;NMEPET;NNEUiUNG;
    A=GN PAMAAEH;FVI+MA;ACnSnkTx PASkGk MA;YWA;A,Kw;HSYA;ADIGIT ZjO;GnE;GTWO;HHvE;GFOUR;HIVE;
    G=X;HEVs;GEf;GNgE;AAVAG+w;A,vU;HiU;HBw;HFgd K;NM;0BA>K ,A;D=MdUNGUN A;Dw;D=MdUNGUN w;
    DMkDAIL&w;DBA;DKeO BA;DPA;D=MdUNGUN PA;DNA;DMkDAIL&NA;DWA;D=MdUNGUN WA;DPAKPAK WA;DGA;
    D=MdUNGUN GA;DJA;DDA;D+;D=MdUNGUN +;DMA;D=MdUNGUN MA;EOUzjN >;DN^zjN >;DSA;EIMdUNGUNmA;
    DMkDAILgGmA;DYA;D=MdUNGUN YA;DNGA;D.;D=MdUNGUN .;DNYA;DCA;DNDA;DMBA;DI;DU;6=GN TOMPI;
    6VOWELx E;HPAKPAK E;HEE;HI;HKeO I;HO;HKeO O;HU;I F^mIMdUNGUNmA;6CnSnkTx NG;LH;6PkGO.T;9nGnk;
    @1BFC;6SYMBOL BgDU NA METEK;JPgeBO+S;JJUDUL;JPkGO.T;0iPCw ,KA;F.;Fw;EGA;F.;ENGA;ECA;Fw;EJA;
    ENYA;E>;Fw;EDA;ENA;EPA;F.;Fw;EFA;F.;EBA;F.;EMA;F.;ETSA;Gw;EDZA;EYA;E+;E.;Ew;F.;EVA;ESA;Fw;
    EWA;EA;7SUBJOgEr,YA;O+;7VOWELx AA;II;IO;JO;IU;JU;IE;7CnSnkTx K;MM;ML;MN;MP;MR;MT;MNYg-DO;
    MKkG;7=GN Rk;CNUK>;@1C3B;7PUNCTUAtn >-ROL;JNYET zYOOM >-ROL;JCj-WA;JTSHOOK Cj-WA;OK;
    7DIGIT ZjO;DnE;DTWO;EHvE;DFOUR;EIVE;D=X;EEVs;DEf;DNgE;@1C4D;7,T>;Gw;EDDA;
    0OL CHIKI DIGIT ZjO;FnE;FTWO;GHvE;FFOUR;GIVE;F=X;GEVs;FEf;FNgE;9,.;GAT;HG;HNG;HL;G.A;GAAK;
    IJ;IM;IW;GLI;GIS;HH;HNY;HR;GLU;GUC;HD;HNN;HY;Gi;GEP;HDD;HN;HRR;GLO;GOTT;HB;HV;HH;
    9MU TTUDDAG;9GAAH.A TTUDDAAG;9MU-GAAH.A TTUDDAAG;9v.A;9PweKAA;9AwD;9PUNCTUAtn MUCAAD;
    L% MUCAAD;0CYRILLICmMdaROUNDErVE;MLnG-iGGErDE;MNeROW O;MWIDyES;MTdL TE;NHvE-iGGErTE;
    NdL HeDx;RYAT;MUNBiNDErUK;@1C90;0GE^GIk M>VRULI cak;XBk;XGk;XDn;Xs;XVg;XZs;XTk;Xg;XKk;X.S;
    XMk;XNe;Xn;XPe;XZHe;X+E;XSk;XTe;XUN;XPHe;XKHe;XGHk;XQe;XSHg;XCHg;Yk;XJIL;XCIL;YHe;XXk;XJHk",
   "XwE;YE;YIE;XWE;XHe;YOE;XFI;XYN;XELIFI;XTURNErGk;XAg;@1CBD;Ys;XHeDx;X.BIdx;
    0SUNDkESyPUNCTUAtn BgDUmURYA;SPkGLnG;TURNAMA;SCAK+;SiUmATkGA;SKAmATkGA;SDAmATkGA;SBAmATkGA;
    @1CD0;0VEDIC TnyKeSHkA;BSHeA;BPRsKw;6=GN NIHSHVASA;BYAJURVEDIC MIDLgEmVeI>;
    6TnyYAJURVEDIC AGG+VATErgDEPsDsTmVeI>;MgDEPsDsTmVeI>;MKATwKA gDEPsDsTmVeI>;BCkD+ !;
    BYAJURVEDIC KATwKA gDEPsDsTmVeI>mCHROEDj;B%mVeI>;BTRIPimVeI>;BKATwKA kUDAT>;B~ !;BTWO ~S !;
    CHvy~S !;BRIGVEDIC KASHMIRI gDEPsDsTmVeI>;BAzeVAVEDIC gDEPsDsTmVeI>;6=GN VISeGAmVeI>;JUDAT>;
    BvVjSErVISeGA UDAT>;BVISeGA kUDAT>;BvVjSErVISeGA kUDAT>;BVISeGA UDAT>b>IL;JkUDAT>b>IL;
    BkUSVeA kTeGOMUKw;KBAHIRGOMUKw;KVAMAGOMUKw;Vb>IL;BtRYAK;B<XIF^M LnG kUSVeA;BLnG kUSVeA;
    BRzkG LnG kUSVeA;BkUSVeA UBwYATO MUKw;CRDwVISeGA;BRO>TEreDwVISeGA;6TnyCkD+o;
    6=GN JIHVAMULIYA;BUPADHMkIYA;BAtK+MA;6TnyRgGo;B% RgGo;6=GN % kUSVeA kTeGOMUKw;@1D00;
    0.Tg iTTjmMdL cL A;SE;6qTURNErAE;6iTTjmMdL cL BevrB;RC;RD;REz;RE;6qTURNErOPs E;QI;
    6iTTjmMdL cL J;RK;RLbSTROKE;RM;RvVjSErN;RO;SPs O;6q=DEWAYS O;TPs O;TbSTROKE;JTURNErOE;
    6iTTjmMdL cL OU;6qTOP HdF O;JBOTTOM HdF O;6iTTjmMdL cL P;RvVjSErR;RTURNErR;RT;RU;
    6q=DEWAYS U;SDIAjE=ZErU;STURNErM;6iTTjmMdL cL V;RW;RZ;REZH;DVOICErLeYNGEdmPIRkT;DAg;
    0GvEK iTTjmMdL cL GAMMA;R.MDA;RPI;RRHO;RP=;0CYRILLIC iTTjmMdL cL EL;0MODIFIj ,cL A;PE;OB;
    PevrB;OD;OE;OvVjSErE;OG;OH;OI;OJ;OK;OL;OM;ON;OvVjSErN;OO;PU;OP;OR;OT;OU;OW;GSMdL A;MTURNErA;
    MdPw;MTURNErAE;MB;MD;ME;MSCHWA;MOPs E;MTURNErOPs E;MG;MTURNErI;MK;MM;MsG;MO;NPs O;
    MTOP HdF O;MBOTTOM HdF O;MP;MT;MU;M=DEWAYS U;MTURNErM;MV;MAg;MBE>;MGvEK GAMMA;MDEL>;
    MGvEK PHI;MCHI;0.TgmUBSCRIPTmMdaI;TR;TU;TV;0GvEKmUBSCRIPTmMdaBE>;TGAMMA;TRHO;TPHI;TCHI;
    0.TgmMdaUE;JBbMIDDi tLDE;JDbMIDDi tLDE;JFbMIDDi tLDE;JMbMIDDi tLDE;JNbMIDDi tLDE;
    JPbMIDDi tLDE;JRbMIDDi tLDE;QFISHHOOK?MIDDi tLDE;JSbMIDDi tLDE;JTbMIDDi tLDE;JZbMIDDi tLDE;
    JTURNErG;0MODIFIj ,CYRILLIC s;0.TgmMdagSULe G;JzbSTRIKEzROUGH;CcaIbSTROKE;C,IO>bSTROKE;
    JPbSTROKE;CcaUbSTROKE;C,UP=LnbSTROKE;JBbPdATd HOOK;JDbPdATd HOOK;JFbPdATd HOOK;
    JGbPdATd HOOK;JKbPdATd HOOK;JLbPdATd HOOK;JMbPdATd HOOK;JNbPdATd HOOK;JPbPdATd HOOK;
    JRbPdATd HOOK;JSbPdATd HOOK;JESHbPdATd HOOK;JVbPdATd HOOK;JXbPdATd HOOK;JZbPdATd HOOK;
    JAbvTROFiX HOOK;KLPwbvTROFiX HOOK;JDbHOOK?>IL;JEbvTROFiX HOOK;JOPs EbvTROFiX HOOK;
    JvVjSErOPs EbvTROFiX HOOK;JSCHWAbvTROFiX HOOK;JIbvTROFiX HOOK;JOPs ObvTROFiX HOOK;
    JESHbvTROFiX HOOK;JUbvTROFiX HOOK;JEZHbvTROFiX HOOK;0MODIFIj iTTjmMdL TURNErdPw;MC;NbCURL;
    MEz;MvVjSErOPs E;MF;M~iSS JbSTROKE;MSCRIPT G;MTURNErH;MIbSTROKE;NO>;McL I;VbSTROKE;
    MJbCROSSED->IL;MLbvTROFiX HOOK;TPdATd HOOK;McL L;MMbHOOK;MTURNErMbLnG iG;MNb* HOOK;
    TvTROFiX HOOK;McL N;MBevrO;MPHI;MSbHOOK;MESH;MTbPdATd HOOK;MU Be;NP=Ln;McL U;MVbHOOK;
    MTURNErV;MZ;NbvTROFiX HOOK;TCURL;MEZH;MzE>;0COMBg&~TErG+VyACCsT;HACUTyACCsT;ASNAKy!;
    BUSPs=n MeK;AMACRn-ACUTE;AG+VE-MACRn;AMACRn-G+VE;AACUTE-MACRn;AG+VE-ACUTE-G+VE;
    AACUTE-G+VE-ACUTE;A.TgmMdaR !;ABvVE-MACRn;AMACRn-BvVE;A% _UMFiXo;AOGnEKo;AZIGZAG !;AIS !;
    AURo;BSo;A.TgmMdaF.TTsErOPs Ao;TAE;UO;UV;TC CEDIL.;TgSULe D;TEz;TG;GiTTjmMdL cL G;GqK;TL;
    GiTTjmMdL cL L;ZL M;GqN;GiTTjmMdL cL N;ZL R;GqR ROTUNDA;TS;TLnGm;TZ;TdPw;TB;UE>;TSCHWA;TF;
    TLb% MIDDi tLDE;TObLf CsTRdIZAtnmTROKE;TP;TESH;TUbLf CsTRdIZAtnmTROKE;TW;TAbDIAjE=S;
    TObDIAjE=S;TUbDIAjE=S;AUP >CKo;AKAVYKAo Rf;N*;A~o *;AWIDygVjTErBRIDGy!;A~ ! *;BEitn MeK;
    BOUBi gVjTErBvVy!;AdMOST EQUd TO !;A*l<ADo;ARfl<ArkrDOWNl<Ar!;0.Tg caAbR&!;6qAbR&!;6caBb~o;
    6qBb~o;6caBb~ !;6qBb~ !;6caBbLgy!;6qBbLgy!;6caCbCEDIL.?ACUTE;6qCbCEDIL.?ACUTE;6caDb~o",
   "6qDb~o;6caDb~ !;6qDb~ !;6caDbLgy!;6qDbLgy!;6caDbCEDIL.;6qDbCEDIL.;6caDb_UMFiX !;
    6qDb_UMFiX !;6caEbMACRn?G+VE;6qEbMACRn?G+VE;6caEbMACRn?ACUTE;6qEbMACRn?ACUTE;6caEb_UMFiX !;
    6qEb_UMFiX !;6caEbtLDy!;6qEbtLDy!;6caEbCEDIL.?BvVE;6qEbCEDIL.?BvVE;6caFb~o;6qFb~o;
    6caGbMACRn;6qGbMACRn;6caHb~o;6qHb~o;6caHb~ !;6qHb~ !;6caHbDIAjE=S;6qHbDIAjE=S;6caHbCEDIL.;
    6qHbCEDIL.;6caHbBvVy!;6qHbBvVy!;6caIbtLDy!;6qIbtLDy!;6caIbDIAjE=S?ACUTE;6qIbDIAjE=S?ACUTE;
    6caKbACUTE;6qKbACUTE;6caKb~ !;6qKb~ !;6caKbLgy!;6qKbLgy!;6caLb~ !;6qLb~ !;6caLb~ !?MACRn;
    6qLb~ !?MACRn;6caLbLgy!;6qLbLgy!;6caLb_UMFiX !;6qLb_UMFiX !;6caMbACUTE;6qMbACUTE;6caMb~o;
    6qMb~o;6caMb~ !;6qMb~ !;6caNb~o;6qNb~o;6caNb~ !;6qNb~ !;6caNbLgy!;6qNbLgy!;6caNb_UMFiX !;
    6qNb_UMFiX !;6caObtLDykrACUTE;6qObtLDykrACUTE;6caObtLDykrDIAjE=S;6qObtLDykrDIAjE=S;
    6caObMACRn?G+VE;6qObMACRn?G+VE;6caObMACRn?ACUTE;6qObMACRn?ACUTE;6caPbACUTE;6qPbACUTE;
    6caPb~o;6qPb~o;6caRb~o;6qRb~o;6caRb~ !;6qRb~ !;6caRb~ !?MACRn;6qRb~ !?MACRn;6caRbLgy!;
    6qRbLgy!;6caSb~o;6qSb~o;6caSb~ !;6qSb~ !;6caSbACUTykr~o;6qSbACUTykr~o;6caSbCen?~o;
    6qSbCen?~o;6caSb~ !?~o;6qSb~ !?~o;6caTb~o;6qTb~o;6caTb~ !;6qTb~ !;6caTbLgy!;6qTbLgy!;
    6caTb_UMFiX !;6qTb_UMFiX !;6caUbDIAjE=S !;6qUbDIAjE=S !;6caUbtLDy!;6qUbtLDy!;6caUb_UMFiX !;
    6qUb_UMFiX !;6caUbtLDykrACUTE;6qUbtLDykrACUTE;6caUbMACRn?DIAjE=S;6qUbMACRn?DIAjE=S;
    6caVbtLDE;6qVbtLDE;6caVb~ !;6qVb~ !;6caWbG+VE;6qWbG+VE;6caWbACUTE;6qWbACUTE;6caWbDIAjE=S;
    6qWbDIAjE=S;6caWb~o;6qWb~o;6caWb~ !;6qWb~ !;6caXb~o;6qXb~o;6caXbDIAjE=S;6qXbDIAjE=S;6caYb~o;
    6qYb~o;6caZb_UMFiX;6qZb_UMFiX;6caZb~ !;6qZb~ !;6caZbLgy!;6qZbLgy!;JHbLgy!;JTbDIAjE=S;
    JWbRgGo;JYbRgGo;JAbRf HdF RgG;JLnGmb~o;WIAGndmTROKE;VHIGHmTROKE;6caSHePm;6qDEL>;6caAb~ !;
    6qAb~ !;6caAbHOOKo;6qAbHOOKo;6caAb_UMFiX?ACUTE;6qAb_UMFiX?ACUTE;6caAb_UMFiX?G+VE;
    6qAb_UMFiX?G+VE;6caAb_UMFiX?HOOKo;6qAb_UMFiX?HOOKo;6caAb_UMFiX?tLDE;6qAb_UMFiX?tLDE;
    6caAb_UMFiX?~ !;6qAb_UMFiX?~ !;6caAbBvVykrACUTE;6qAbBvVykrACUTE;6caAbBvVykrG+VE;
    6qAbBvVykrG+VE;6caAbBvVykrHOOKo;6qAbBvVykrHOOKo;6caAbBvVykrtLDE;6qAbBvVykrtLDE;
    6caAbBvVykr~ !;6qAbBvVykr~ !;6caEb~ !;6qEb~ !;6caEbHOOKo;6qEbHOOKo;6caEbtLDE;6qEbtLDE;
    6caEb_UMFiX?ACUTE;6qEb_UMFiX?ACUTE;6caEb_UMFiX?G+VE;6qEb_UMFiX?G+VE;6caEb_UMFiX?HOOKo;
    6qEb_UMFiX?HOOKo;6caEb_UMFiX?tLDE;6qEb_UMFiX?tLDE;6caEb_UMFiX?~ !;6qEb_UMFiX?~ !;6caIbHOOKo;
    6qIbHOOKo;6caIb~ !;6qIb~ !;6caOb~ !;6qOb~ !;6caObHOOKo;6qObHOOKo;6caOb_UMFiX?ACUTE;
    6qOb_UMFiX?ACUTE;6caOb_UMFiX?G+VE;6qOb_UMFiX?G+VE;6caOb_UMFiX?HOOKo;6qOb_UMFiX?HOOKo;
    6caOb_UMFiX?tLDE;6qOb_UMFiX?tLDE;6caOb_UMFiX?~ !;6qOb_UMFiX?~ !;6caObH^N?ACUTE;
    6qObH^N?ACUTE;6caObH^N?G+VE;6qObH^N?G+VE;6caObH^N?HOOKo;6qObH^N?HOOKo;6caObH^N?tLDE;
    6qObH^N?tLDE;6caObH^N?~ !;6qObH^N?~ !;6caUb~ !;6qUb~ !;6caUbHOOKo;6qUbHOOKo;6caUbH^N?ACUTE;
    6qUbH^N?ACUTE;6caUbH^N?G+VE;6qUbH^N?G+VE;6caUbH^N?HOOKo;6qUbH^N?HOOKo;6caUbH^N?tLDE;
    6qUbH^N?tLDE;6caUbH^N?~ !;6qUbH^N?~ !;6caYbG+VE;6qYbG+VE;6caYb~ !;6qYb~ !;6caYbHOOKo;
    6qYbHOOKo;6caYbtLDE;6qYbtLDE;6caMIDDi-WELSH LL;6qMIDDi-WELSH LL;6caMIDDi-WELSH V;
    6qMIDDi-WELSH V;6caYbLOOP;6qYbLOOP;0GvEKmMdadPwbP=LI;UDA=A;UP=LI?VeIA;UDA=A?VeIA;UP=LI?OXIA;
    UDA=A?OXIA;UP=LI?PjISPOMsI;UDA=A?PjISPOMsI;6cadPwbP=LI;WDA=A;WP=LI?VeIA;WDA=A?VeIA;
    WP=LI?OXIA;WDA=A?OXIA;WP=LI?PjISPOMsI;WDA=A?PjISPOMsI;6qEP=LnbP=LI;WDA=A;WP=LI?VeIA;
    WDA=A?VeIA;WP=LI?OXIA;WDA=A?OXIA;@1F18;6caEP=LnbP=LI;YDA=A;YP=LI?VeIA;YDA=A?VeIA;YP=LI?OXIA;
    YDA=A?OXIA;@1F20;6qE>bP=LI;SDA=A;SP=LI?VeIA;SDA=A?VeIA;SP=LI?OXIA;SDA=A?OXIA;
    SP=LI?PjISPOMsI;SDA=A?PjISPOMsI;6caE>bP=LI;UDA=A;UP=LI?VeIA;UDA=A?VeIA;UP=LI?OXIA",
   "UDA=A?OXIA;UP=LI?PjISPOMsI;UDA=A?PjISPOMsI;6qIO>bP=LI;TDA=A;TP=LI?VeIA;TDA=A?VeIA;
    TP=LI?OXIA;TDA=A?OXIA;TP=LI?PjISPOMsI;TDA=A?PjISPOMsI;6caIO>bP=LI;VDA=A;VP=LI?VeIA;
    VDA=A?VeIA;VP=LI?OXIA;VDA=A?OXIA;VP=LI?PjISPOMsI;VDA=A?PjISPOMsI;6qOMICRnbP=LI;WDA=A;
    WP=LI?VeIA;WDA=A?VeIA;WP=LI?OXIA;WDA=A?OXIA;@1F48;6caOMICRnbP=LI;YDA=A;YP=LI?VeIA;
    YDA=A?VeIA;YP=LI?OXIA;YDA=A?OXIA;@1F50;6qUP=LnbP=LI;WDA=A;WP=LI?VeIA;WDA=A?VeIA;WP=LI?OXIA;
    WDA=A?OXIA;WP=LI?PjISPOMsI;WDA=A?PjISPOMsI;@1F59;6caUP=LnbDA=A;@1F5B;ZA=A?VeIA;@1F5D;
    ZA=A?OXIA;@1F5F;ZA=A?PjISPOMsI;6qOMEGAbP=LI;UDA=A;UP=LI?VeIA;UDA=A?VeIA;UP=LI?OXIA;
    UDA=A?OXIA;UP=LI?PjISPOMsI;UDA=A?PjISPOMsI;6caOMEGAbP=LI;WDA=A;WP=LI?VeIA;WDA=A?VeIA;
    WP=LI?OXIA;WDA=A?OXIA;WP=LI?PjISPOMsI;WDA=A?PjISPOMsI;6qdPwbVeIA;UOXIA;JEP=LnbVeIA;WOXIA;
    K>bVeIA;SOXIA;JIO>bVeIA;TOXIA;JOMICRnbVeIA;WOXIA;JUP=LnbVeIA;WOXIA;JOMEGAbVeIA;UOXIA;@1F80;
    JdPwbP=LI?YPOGEG+MMsI;UDA=A?YPOGEG+MMsI;UP=LI?VeIA?YPOGEG+MMsI;UDA=A?VeIA?YPOGEG+MMsI;
    UP=LI?OXIA?YPOGEG+MMsI;UDA=A?OXIA?YPOGEG+MMsI;UP=LI?PjISPOMsI?YPOGEG+MMsI;
    UDA=A?PjISPOMsI?YPOGEG+MMsI;6cadPwbP=LI?PROSGEG+MMsI;WDA=A?PROSGEG+MMsI;
    WP=LI?VeIA?PROSGEG+MMsI;WDA=A?VeIA?PROSGEG+MMsI;WP=LI?OXIA?PROSGEG+MMsI;
    WDA=A?OXIA?PROSGEG+MMsI;WP=LI?PjISPOMsI?PROSGEG+MMsI;WDA=A?PjISPOMsI?PROSGEG+MMsI;
    6qE>bP=LI?YPOGEG+MMsI;SDA=A?YPOGEG+MMsI;SP=LI?VeIA?YPOGEG+MMsI;SDA=A?VeIA?YPOGEG+MMsI;
    SP=LI?OXIA?YPOGEG+MMsI;SDA=A?OXIA?YPOGEG+MMsI;SP=LI?PjISPOMsI?YPOGEG+MMsI;
    SDA=A?PjISPOMsI?YPOGEG+MMsI;6caE>bP=LI?PROSGEG+MMsI;UDA=A?PROSGEG+MMsI;
    UP=LI?VeIA?PROSGEG+MMsI;UDA=A?VeIA?PROSGEG+MMsI;UP=LI?OXIA?PROSGEG+MMsI;
    UDA=A?OXIA?PROSGEG+MMsI;UP=LI?PjISPOMsI?PROSGEG+MMsI;UDA=A?PjISPOMsI?PROSGEG+MMsI;
    6qOMEGAbP=LI?YPOGEG+MMsI;UDA=A?YPOGEG+MMsI;UP=LI?VeIA?YPOGEG+MMsI;UDA=A?VeIA?YPOGEG+MMsI;
    UP=LI?OXIA?YPOGEG+MMsI;UDA=A?OXIA?YPOGEG+MMsI;UP=LI?PjISPOMsI?YPOGEG+MMsI;
    UDA=A?PjISPOMsI?YPOGEG+MMsI;6caOMEGAbP=LI?PROSGEG+MMsI;WDA=A?PROSGEG+MMsI;
    WP=LI?VeIA?PROSGEG+MMsI;WDA=A?VeIA?PROSGEG+MMsI;WP=LI?OXIA?PROSGEG+MMsI;
    WDA=A?OXIA?PROSGEG+MMsI;WP=LI?PjISPOMsI?PROSGEG+MMsI;WDA=A?PjISPOMsI?PROSGEG+MMsI;
    6qdPwbV+CHY;UMACRn;UVeIA?YPOGEG+MMsI;UYPOGEG+MMsI;UOXIA?YPOGEG+MMsI;@1FB6;UPjISPOMsI;
    ZPOMsI?YPOGEG+MMsI;6cadPwbV+CHY;WMACRn;WVeIA;WOXIA;WPROSGEG+MMsI;6K^nIS;6PROSGEG+MMsI;7=LI;
    7jISPOMsI;6DIdYtKA?PjISPOMsI;6qE>bVeIA?YPOGEG+MMsI;SYPOGEG+MMsI;SOXIA?YPOGEG+MMsI;@1FC6;
    SPjISPOMsI;ZMsI?YPOGEG+MMsI;6caEP=LnbVeIA;YOXIA;M>bVeIA;UOXIA;UPROSGEG+MMsI;6P=LI?VeIA;
    GOXIA;GPjISPOMsI;6qIO>bV+CHY;TMACRn;TDIdYtKA?VeIA;ZIKA?OXIA;@1FD6;TPjISPOMsI;
    TDIdYtKA?PjISPOMsI;6caIO>bV+CHY;VMACRn;VVeIA;VOXIA;@1FDD;6DA=A?VeIA;GOXIA;GPjISPOMsI;
    6qUP=LnbV+CHY;WMACRn;WDIdYtKA?VeIA;ZLYtKA?OXIA;JRHObP=LI;SDA=A;JUP=LnbPjISPOMsI;
    WDIdYtKA?PjISPOMsI;6caUP=LnbV+CHY;YMACRn;YVeIA;YOXIA;LRHObDA=A;6DIdYtKA?VeIA;KOXIA;6VeIA;
    @1FF2;6qOMEGAbVeIA?YPOGEG+MMsI;UYPOGEG+MMsI;UOXIA?YPOGEG+MMsI;@1FF6;UPjISPOMsI;
    ZPOMsI?YPOGEG+MMsI;6caOMICRnbVeIA;YOXIA;NEGAbVeIA;WOXIA;WPROSGEG+MMsI;6OXIA;6DA=A;@2000;
    0s QUAD;1M QUAD;1NmPACE;1MmPACE;0zvE-Pj-EMmPACE;0FOUR-Pj-EMmPACE;0=X-Pj-EMmPACE;0FIGUvmPACE;
    0PUNCTUAtnmPACE;0zgmPACE;0wIRmPACE;0ZjO WIDzmPACE;BNn-JOgj;BJOgj;0*-TO-Rf MeK;0Rf-TO-* MeK;
    0HYPHs;0Nn-BvAK&HYPHs;0FIGUv DASH;0s DASH;1M DASH;0H^IZnTd Be;0% VjtCd LgE;7LOW LgE;
    0*mgGi QUO>tn MeK;0RfmgGi QUO>tn MeK;0SgGi LOW-9 QUO>tn MeK;7HIGH-vVjSED-9 QUO>tn MeK;
    0* % QUO>tn MeK;0Rf % QUO>tn MeK;0% LOW-9 QUO>tn MeK;7HIGH-vVjSED-9 QUO>tn MeK;1AGGj",
   "1OUBi DAGGj;0BULiT;0TRIkGULe BULiT;0ny~ iADj;0TWO ~ iADj;0H^IZnTd ELLIP=S;1YPHsAtn POgT;
    0LgEmEPeAT^;0PeAG+PHmEPeAT^;0*-TO-Rf EMBEDDgG;0Rf-TO-* EMBEDDgG;0POP DIvCtndhATTgG;
    0*-TO-Rf OVjRIDE;0Rf-TO-* OVjRIDE;0NeROW NO-BvAKmPACE;0Pj MILix;4Ts zOUSkDx;1RIME;0% PRIME;
    0TRIPi PRIME;0vVjSErPRIME;9% PRIME;9TRIPi PRIME;0CeET;0SgGi *-POgT&kGi QUO>tn MeK;
    7Rf-POgT&kGi QUO>tn MeK;0vFjsCyMeK;0% EXC.MAtn MeK;0gTjROBkG;0OVjLgE;0UNDjtE;0CHeACTj tE;
    1eET gSjtn POgT;0ASTjISM;0HYPHs BULiT;0F+Ctnm.SH;0*mQUeyB+CKETbQUILL;0RfmQUeyB+CKETbQUILL;
    0% QUEStn MeK;0QUEStn EXC.MAtn MeK;0EXC.MAtn QUEStn MeK;0tRnIkx ET;0vVjSErPILCROWx;
    0B.CK *u BULiT;6Rfu BULiT;0LOW ASTjISK;0vVjSEDmEMICOLn;0CLOSyUP;0TWO ASTjISKS dIGNErVjtCdLY;
    0COMMjCId MgUSx;0SWUNG DASH;0gVjTErUNDjtE;0FLOWj PUNCTUAtn MeK;0zvy~ PUNCTUAtn;
    0QUADRUPi PRIME;0FOUR ~ PUNCTUAtn;1IVy~ PUNCTUAtn;0TWO ~ PUNCTUAtn;0FOUR ~ MeK;0~TErCROSS;
    0TRICOLn;0VjtCd FOUR ~S;0MEDIUM MAzEMAtCdmPACE;0W^rJOgj;0FUNCtn APPLICAtn;0gVI=Bi tMES;
    ASEPeAT^;APLUS;@2066;0*-TO-Rf ISO.TE;0Rf-TO-* ISO.TE;0FIRSTmTRnG ISO.TE;0POP DIvCtnd ISO.TE;
    0gHIBITmYMMETRICmWAPPgG;0ACtVATEmYMMETRICmWAPPgG;0gHIBIT eABIChmwPgG;0ACtVATyeABIChmwPgG;
    0NAtnd DIGITmwPES;1OMgd DIGITmwPES;0SUPjSCRIPT ZjO;C.TgmMdaI;@2074;CFOUR;DIVE;C=X;DEVs;CEf;
    CNgE;CPLUSx;CMgUS;CEQUdSx;C* PeszE=S;CRf PeszE=S;C.TgmMdaN;2BSCRIPT ZjO;AnE;ATWO;BHvE;AFOUR;
    BIVE;A=X;BEVs;AEf;ANgE;APLUSx;AMgUS;AEQUdSx;A* PeszE=S;ARf PeszE=S;@2090;0.TgmUBSCRIPTmMdaA;
    TE;TO;TX;TSCHWA;TH;TK;TL;TM;TN;TP;TS;TT;@20A0;0EURO-CURRsCYx;0COLnx;1RUZEIROx;0FRsCH FRkCx;
    0LI+x;0MILLx;0NAI+x;0PESE>x;0RUPEEx;0Wnx;0NEWm<QELx;0DnGx;0EUROx;0KIPx;0TUGRIKx;0D+CHMAx;
    0GjMk PsNYx;0PESOx;0GUekIx;0AUSTRdx;0HRYVNIAx;0CEDIx;0LIVv TOURNOISx;0SPESMILOx;0TsGEx;
    0gDIk RUPEEx;0TURKISH LI+x;0N^DIC MeKx;0MkATx;0RUBix;0LeIx;0BITCOgx;0SOMx;@20D0;
    0COMBg&* HePOno;ARf HePOno;ALnG VjtCd LgyOVj.Y;ASH^T VjtCd LgyOVj.Y;AktCLOCKWISElo;
    ACLOCKWISElo;A*lo;ARflo;CNG OVj.Y;ACLOCKWISyR&OVj.Y;AktCLOCKWISyR&OVj.Y;Azvy~So;AFOUR ~So;
    AsCLOS&_i;KSQUeE;KDIAMnD;K_i BACKS.SH;A* Rflo;AsCLOSgGmCvs;KKEYCAP;KUPWerPOgT&TRIkGi;
    AvVjSEmOLIDUS OVj.Y;A% VjtCdmTROKyOVj.Y;AkNUITY|;ATRIPi UNDj~;AWIDyBRIDGEo;A*ul OVj.Y;
    BnG %mOLIDUS OVj.Y;ARfu HePOnbBeB DOWNu;A*u HePOnbBeB DOWNu;El !;ARfl !;AASTjISKo;@2100;
    0ACCOUNT OF;1DDvSSErTO zEmUBJECT;0%-STRUCK cL C;1EGvyCEL=US;0CsTv LgE|;1eyOF;2DA UNA;
    0EUiR CnSTkT;0SCRUPi;0DEGvyFAHRs<IT;0SCRIPTmMdL G;7cL H;0B.CK-,cL H;0%-STRUCK cL H;
    0PLkCK CnSTkT;F OVj TWO PI;0SCRIPT cL I;0B.CK-,cL I;0SCRIPT cL L;7SMdL L;0L B Be|;
    0%-STRUCK cL N;0NUMjOx;0SOUNrvC^D&COPYRf;1CRIPT cL P;0%-STRUCK cL P;MQ;0SCRIPT cL R;
    0B.CK-,cL R;0%-STRUCK cL R;0PvSCRIPtn >KE;0vSPnSE;0SjVICyMeK;0TEiPHnEx;1+DyMeKx;0Vj=Ci;
    0%-STRUCK cL Z;0OUNCEx;1HMx;0gVjTErOHMx;0B.CK-,cL Z;0TURNErGvEKmMdaIO>;0KELVgx;0kGSTROMx;
    0SCRIPT cL B;0B.CK-,cL C;0EStMATED|;0SCRIPTmMdL E;7cL E;FF;0TURNErcL F;0SCRIPT cL M;7SMdL O;
    0dEF|;0BET|;0GIMEL|;0DdET|;0gF^MAtnmOURCE;0RO>TErcL Q;0FAC=MIix;0%-STRUCKmMdL PI;KGAMMA;
    EcL GAMMA;MPI;EN-eYmUMMAtn;0TURNEDmkS-SjIF cL G;QL;0vVjSEDmkS-SjIF cL L;
    0TURNEDmkS-SjIF cL Y;0%-STRUCK ITdIC cL D;LSMdL D;RE;RI;RJ;0PROPjTY LgE;0TURNErAMPjSkD;0Pjx;
    0AKtESELSKAB;0TURNEDmMdL F;0SYMBOL F^mAMeITkmOURCE;0VULGe F+Ctn nEmEVsz;KNgz;KTsz;LHIRD;
    GTWO zIRDS;GnyFIFz;GTWO FIFzS;HHvyFIFzS;GFOUR FIFzS;GnEmIXz;GFIVEmIXzS;GnyEfH;GzvyEfHS;
    GFIVyEfHS;GSEVs EfHS;0F+Ctn NUMjAT^ nE;0ROMk NUMjd nE;ETWO;FHvE;EFOUR;FIVE;E=X;FEVs;EEf;
    ENgE;ETs;EEiVs;ETWELVE;EFIFTY;EnyHUNDvD;EFIVyHUNDvD;EnyzOUSkD;0SMdL ROMk NUMjd nE;KTWO;LHvE;
    KFOUR;LIVE;K=X;LEVs;KEf;KNgE;KTs;KEiVs;KTWELVE;KFIFTY;KnyHUNDvD;KFIVyHUNDvD;KnyzOUSkD",
   "0ROMk NUMjd nyzOUSkrC D;EFIVyzOUSkD;ETs zOUSkD;EvVjSErnyHUNDvD;0.TgmMdavVjSErC;
    0ROMk NUMjdmIX .TEh;EFIFTY EeLYh;KzOUSkD;EnyHUNDvrzOUSkD;0VULGe F+Ctn ZjO zIRDS;
    0TURNErDIGIT TWO;EHvE;@2190;0*ul;0UPul;0Rful;0DOWNul;0* Rfl;0UP DOWNl;0N^z WESTl;6EASTl;
    0SOUz EASTl;6WESTl;0*ulbSTROKE;0RfulbSTROKE;0*u WAVEl;0Rfu WAVEl;0*u TWO <ADEDl;
    0UPu TWO <ADEDl;0Rfu TWO <ADEDl;0DOWNu TWO <ADEDl;0*ulb>IL;0Rfulb>IL;0*ul FROM Be;
    0UPul FROM Be;0Rful FROM Be;0DOWNul FROM Be;0UP DOWNlbBASE;0*ulbHOOK;0RfulbHOOK;0*ulbLOOP;
    0RfulbLOOP;0* Rf WAVEl;BeROWbSTROKE;0DOWNu ZIGZAGl;0UPulbtP *u;NRfu;0DOWNulbtP *u;PRfu;
    0RfulbC^Nj DOWNu;0DOWNulbC^Nj *u;0ktCLOCKWISyTOPmEMI_il;0CLOCKWISyTOPmEMI_il;
    0N^z WESTl TO LnG Be;0*ul TO Be OVj Rful TO Be;0ktCLOCKWISyOPs _il;0CLOCKWISyOPs _il;
    0*u HePOnbBeB UPu;SDOWNu;0UPu HePOnbBeB Rfu;Q*u;0Rfu HePOnbBeB UPu;TDOWNu;
    0DOWNu HePOnbBeB Rfu;S*u;0Rful OVj *ul;0UPul *u OF DOWNul;0*ul OVj Rful;APAIvDlS;
    0UPu PAIvDlS;0Rfu PAIvDlS;0DOWNu PAIvDlS;0*u HePOn OVj Rfu HePOn;0Rfu HePOn OVj *u HePOn;
    0*u %lbSTROKE;4 Rf %lbSTROKE;0Rfu %lbSTROKE;0*u %l;0UPu %l;0Rfu %l;0DOWNu %l;0* Rf %l;
    0UP DOWN %l;0N^z WEST %l;6EAST %l;0SOUz EAST %l;6WEST %l;0*u TRIPil;0Rfu TRIPil;0*umQUIGGil;
    0RfumQUIGGil;0UPulb%mTROKE;0DOWNulb%mTROKE;0*u DAS<Dl;0UPu DAS<Dl;0Rfu DAS<Dl;0DOWNu DAS<Dl;
    0*ul TO Be;0Rful TO Be;0*u WHITEl;0UPu WHITEl;0Rfu WHITEl;0DOWNu WHITEl;0UPu WHITEl FROM Be;
    Kn PEDESTd;VbH^IZnTd Be;ZH VjtCd Be;E%l;Q n PEDESTd;0Rfu WHITEl FROM WdL;0N^z WESTl TO C^Nj;
    0SOUz EASTl TO C^Nj;0UP DOWN WHITEl;0RflbSMdL _i;0DOWNul *u OF UPul;0zvyRfulS;
    0*ulbVjtCdmTROKE;0RfulbVjtCdmTROKE;0* RflbVjtCdmTROKE;4ulb% VjtCdmTROKE;0Rfulb% VjtCdmTROKE;
    0* Rflb% VjtCdmTROKE;4u OPs-<ADEDl;0Rfu OPs-<ADEDl;0* Rf OPs-<ADEDl;0F^ dL;0COMPiMsT;
    0Petd DIFFjstd;0zjyEXISTS;6DOES NOT EXIST;0EMPTYmET;0gCvMsT;0NAB.;0EiMsT OF;0NOT k EiMsT OF;
    0SMdL EiMsT OF;0Cn>gS AS MEMBj;0DOES NOT Cn>g AS MEMBj;0SMdL Cn>gS AS MEMBj;0srOF PROOF;
    0N-eY PRODUCT;6COPRODUCT;6SUMMAtn;0MgUSx;5-^-PLUSx;0~ PLUS;1IVI=nm.SH;0SET MgUS;
    0ASTjISK OPjAT^;0R&OPjAT^;0BULiT OPjAT^;0SQUeyROOT;0CUByROOT;0FOURz ROOT;0PROP^tnd TO;
    0gFgITY;0Rf kGi;0kGi;0MEASUvrkGi;0SPHjICd kGi;0DIVIDES;1OES NOT DIVIDE;0PediL TO;
    0NOT PediL TO;0LOGICd kD;8^;0gTjSECtn;0UNIn;0gTEGRd;0% gTEGRd;0TRIPi gTEGRd;0CnTOUR gTEGRd;
    0SURFACygTEGRd;0VOLUMygTEGRd;0CLOCKWISygTEGRd;ACnTOUR gTEGRd;0ktCLOCKWISyCnTOUR gTEGRd;
    0zjEFOv;0BECAUSE;0+tO;0PROP^tn;0~ MgUS;0EXCESS;0GEOMETRIC PROP^tn;0HOMOzEtC;0tLDyOPjAT^;
    0vVjSErtLDE;0gVjTEr.ZYm;0SgyWAVE;0WvAz PRODUCT;0NOT tLDE;0MgUS tLDE;0ASYMPTOtCdLY EQUd TO;
    0NOT ASYMPTOtCdLY EQUd TO;0APPROXIMATELY EQUd TO;EBUT NOT ACTUdLY EQUd TO;
    0NEIzj APPROXIMATELY N^ ACTUdLY EQUd TO;0dMOST EQUd TO;0NOT dMOST EQUd TO;
    0dMOST EQUd ^ EQUd TO;0TRIPi tLDE;0dL EQUd TO;0EQUIVdsT TO;0GEOMETRICdLY EQUIVdsT TO;
    0DIFFjsCyBETWEs;0APPROAC<S zyLIMIT;0GEOMETRICdLY EQUd TO;0APPROXIMATELY EQUd TO ^ zyIMAGyOF;
    0IMAGyOF ^ APPROXIMATELY EQUd TO;0COLn EQUdS;0EQUdS COLn;0R&g EQUd TO;5EQUd TO;0C^vSPnDS TO;
    0EStMATES;1QUIkGULe TO;0STe EQUdS;0DEL> EQUd TO;0EQUd TO BY DEFgItn;0MEASUvrBY;
    0QUEStnErEQUd TO;0NOT EQUd TO;0IDstCd TO;0NOT IDstCd TO;0STRICTLY EQUIVdsT TO;
    0iSS-zk ^ EQUd TO;0GvATj-zk ^ EQUd TO;0iSS-zk OVj EQUd TO;0GvATj-zk OVj EQUd TO;
    0iSS-zk BUT NOT EQUd TO;0GvATj-zk BUT NOT EQUd TO;0MUCH iSS-zk;5GvATj-zk;0BETWEs;
    0NOT EQUIVdsT TO;4iSS-zk;4GvATj-zk;1EIzj iSS-zk N^ EQUd TO;8GvATj-zk N^ EQUd TO;
    0iSS-zk ^ EQUIVdsT TO;0GvATj-zk ^ EQUIVdsT TO;0NEIzj iSS-zk N^ EQUIVdsT TO",
   "8GvATj-zk N^ EQUIVdsT TO;0iSS-zk ^ GvATj-zk;0GvATj-zk ^ iSS-zk;0NEIzj iSS-zk N^ GvATj-zk;
    8GvATj-zk N^ iSS-zk;0PvCEDES;0SUCCEEDS;0PvCEDES ^ EQUd TO;0SUCCEEDS ^ EQUd TO;
    0PvCEDES ^ EQUIVdsT TO;0SUCCEEDS ^ EQUIVdsT TO;0DOES NOT PvCEDE;9SUCCEED;0SUBSET OF;
    2PjSET OF;0NOT AmUBSET OF;8PjSET OF;0SUBSET OF ^ EQUd TO;2PjSET OF ^ EQUd TO;
    0NEIzj AmUBSET OF N^ EQUd TO;CPjSET OF N^ EQUd TO;0SUBSET OFbNOT EQUd TO;
    2PjSET OFbNOT EQUd TO;0MULtSET;8 MULtPLICAtn;9UNIn;0SQUeyIMAGyOF;7^IGgd OF;
    7IMAGyOF ^ EQUd TO;7^IGgd OF ^ EQUd TO;7CAP;8UP;0_irPLUS;8MgUS;8tMES;8DIVI=nm.SH;9OT OPjAT^;
    8R&OPjAT^;8ASTjISK OPjAT^;8EQUdS;8DASH;0SQUeErPLUS;8MgUS;8tMES;8~ OPjAT^;0Rf >CK;0* >CK;
    0DOWN >CK;0UP >CK;0ASSjtn;0MODELS;0TRUE;0F^CES;0TRIPi VjtCd Be Rf TURNSti;
    0% VjtCd Be % Rf TURNSti;2ES NOT PROVE;0NOT TRUE;0DOES NOT F^CE;
    0NEGATEr% VjtCd Be % Rf TURNSti;0PvCEDES UNDj v.tn;0SUCCEEDS UNDj v.tn;0N^MdmUBGROUP OF;
    0Cn>gS AS N^MdmUBGROUP;0N^MdmUBGROUP OF ^ EQUd TO;0Cn>gS AS N^MdmUBGROUP ^ EQUd TO;
    0^IGgd OF;0IMAGyOF;0MULtMAP;0HjMItk CnJUGATyMATRIX;0gTjCdATE;0X^;0NkD;1^;0Rf kGibeC;6TRIkGi;
    0N-eY LOGICd kD;E^;6gTjSECtn;6UNIn;0DIAMnrOPjAT^;1OT OPjAT^;0STe OPjAT^;0DIVI=n tMES;0BOWtE;
    0* N^Md FACT^mEMIDIvCT PRODUCT;0Rf N^Md FACT^mEMIDIvCT PRODUCT;0*mEMIDIvCT PRODUCT;
    0RfmEMIDIvCT PRODUCT;1EVjSErtLDyEQUdS;0CURLY LOGICd ^;EkD;0%mUBSET;9PjSET;7gTjSECtn;7UNIn;
    0PITCHF^K;0EQUd?PediL TO;0iSS-zkb~;0GvATj-zkb~;0VjY MUCH iSS-zk;AGvATj-zk;
    0iSS-zk EQUd TO ^ GvATj-zk;0GvATj-zk EQUd TO ^ iSS-zk;0EQUd TO ^ iSS-zk;CGvATj-zk;CPvCEDES;
    CSUCCEEDS;0DOES NOT PvCEDy^ EQUd;9SUCCEEr^ EQUd;0NOTmQUeyIMAGyOF ^ EQUd TO;
    B^IGgd OF ^ EQUd TO;0SQUeyIMAGyOF ^ NOT EQUd TO;7^IGgd OF ^ NOT EQUd TO;
    0iSS-zk BUT NOT EQUIVdsT TO;0GvATj-zk BUT NOT EQUIVdsT TO;0PvCEDES BUT NOT EQUIVdsT TO;
    0SUCCEEDS BUT NOT EQUIVdsT TO;0NOT N^MdmUBGROUP OF;0DOES NOT Cn>g AS N^MdmUBGROUP;
    0NOT N^MdmUBGROUP OF ^ EQUd TO;0DOES NOT Cn>g AS N^MdmUBGROUP ^ EQUd;0VjtCd ELLIP=S;
    0MIDLgyH^IZnTd ELLIP=S;0UP Rf DIAGnd ELLIP=S;0DOWN Rf DIAGnd ELLIP=S;
    0EiMsT OFbLnG H^IZnTdmTROKE;GVjtCd Be AT srOF H^IZnTdmTROKE;
    0SMdL EiMsT OFbVjtCd Be AT srOF H^IZnTdmTROKE;0EiMsT OFb~o;GOVjBe;0SMdL EiMsT OFbOVjBe;
    0EiMsT OFbUNDjBe;GTWO H^IZnTdmTROKES;0Cn>gSbLnG H^IZnTdmTROKE;
    EVjtCd Be AT srOF H^IZnTdmTROKE;0SMdL Cn>gSbVjtCd Be AT srOF H^IZnTdmTROKE;0Cn>gSbOVjBe;
    0SMdL Cn>gSbOVjBe;0Z NO>tn BAG MEMBjSHIP;0DIAMETjx;0EiCTRICl;0HOUSE;0UPl<AD;0DOWNl<AD;
    0PROJECtVE;1jSPECtVE;0WAVY LgE;0* CEILgG;0Rf CEILgG;0* FLO^;0Rf FLO^;0BOTTOM Rf CROP;
    7* CROP;0TOP Rf CROP;4* CROP;0vVjSErNOTx;0SQUeyLOZsGE;0eC;0SEGMsT;2CT^;0TEiPHnyvC^Dj;
    0PO=tn gDICAT^;0VIEWDA>mQUeE;0P.CyOF gTjESTx;0TURNErNOTx;0WATCH;0HOURG.SS;0TOP * C^Nj;
    4Rf C^Nj;0BOTTOM * C^Nj;7Rf C^Nj;0TOP HdF gTEGRd;0BOTTOM HdF gTEGRd;0FROWN;0SMIi;
    0UPl<ArBETWEs TWO H^IZnTd BeS;0OPtn KEY;0jASyTO zyRf;0X g A vCTkGi BOX;0KEYBOeD;
    0*-POgT&kGi B+CKET;0Rf-POgT&kGi B+CKET;0jASyTO zy*;0BsZsyRgG;0CYLgDRICITY;0dL eOUND-PROFIi;
    0SYMMETRY;0TOTd RUNOUT;0DIMs=n ^IGg;0CnICd >Pj;0SLOPE;0COUNTjBOv;7SgK;0APL FUNCtnd| I-BEAM;
    MSQUISH QUAD;MQUArEQUd;RDIVIDE;TAMnD;RJOT;R_i;M_imti;TJOT;MS.SH Be;MBACKS.SH Be;MQUADm.SH;
    RBACKS.SH;RiSS-zk;RGvATj-zk;M*u VkE;MRfu VkE;MQUAr*ul;RRful;M_i BACKS.SH;MDOWN >CK UNDjBe;
    NEL>mti;MQUArDOWN CeET;SEL>;MDOWN >CK JOT;MUPu VkE;MQUArUPul;MUP >CK OVjBe;MDELmti;
    MQUArUP CeET;RDEL;MUP >CK JOT;MDOWNu VkE;MQUArDOWNul;OOTyUNDjBe;MDEL> UNDjBe;NIAMnrUNDjBe",
   "MJOT UNDjBe;M_i UNDjBe;MUPmHOyJOT;MQUOTyQUAD;M_imTe;MQUArCOLn;MUP >CK DIAjE=S;MDEL DIAjE=S;
    MSTe DIAjE=S;MJOT DIAjE=S;M_i DIAjE=S;MDOWNmHOEmti;M*mHOEmti;MtLDyDIAjE=S;MGvATj-zk DIAjE=S;
    MCOMMA Be;MDEL tLDE;MZILDE;MSti tLDE;NEMICOLn UNDjBe;MQUArNOT EQUd;RQUEStn;MDOWN CeET tLDE;
    MUP CeET tLDE;MIO>;MRHO;MOMEGA;MdPw UNDjBe;MEP=Ln UNDjBe;MIO> UNDjBe;MOMEGA UNDjBe;MdPw;
    0NOT C<CK MeK;0Rf kGibDOWNu ZIGZAGl;0SHOULDjErOPs BOX;0BELL|;0VjtCd LgEbMIDDi ~;0gSjtn|;
    0CnTgUOUS UNDjLgE|;0DISCnTgUOUS UNDjLgE|;0EMPw=S|;0COMPO=tn|;0WHITEmQUeEbCsTv VjtCd LgE;
    0sTj|;0dTjNAtVyKEY|;0<LM|;0_irH^IZnTd BebNOTCH;8TRIkGi DOWN;0BROKs _ibN^zWESTl;0UNDO|;
    0MnOS>Bi|;0HYSTjE=S|;0OPs-_UIT-OUTPUT H-TYPE|;KL-TYPE|;0PAS=VE-PULL-DOWN-OUTPUT|;
    DUP-OUTPUT|;0DIvCT CURRsT|h TWO;0SOFTWeE-FUNCtn|;0APL FUNCtnd| QUAD;0DECIMdmEPeAT^ KEY|;
    0PvVIOUS PAGE;0NEXT PAGE;0PRgTmCvs|;0CiemCvs|;0* PeszE=S UPPj HOOK;HEXTs=n;HLOWj HOOK;
    0Rf PeszE=S UPPj HOOK;IEXTs=n;ILOWj HOOK;0*mQUeyB+CKET UPPj C^Nj;KEXTs=n;KLOWj C^Nj;
    0RfmQUeyB+CKET UPPj C^Nj;LEXTs=n;LLOWj C^Nj;0* CURLY B+CKET UPPj HOOK;JMIDDi PIECE;
    JLOWj HOOK;0CURLY B+CKET EXTs=n;0Rf CURLY B+CKET UPPj HOOK;KMIDDi PIECE;KLOWj HOOK;
    0gTEGRd EXTs=n;0H^IZnTd LgyEXTs=n;0UPPj * ^ LOWj Rf CURLY B+CKETmECtn;
    6Rf ^ LOWj * CURLY B+CKETmECtn;0SUMMAtn TOP;ABOTTOM;0TOPmQUeyB+CKET;0BOTTOMmQUeyB+CKET;
    L OVj TOPmQUeyB+CKET;0+DICd| BOTTOM;0* VjtCd BOX LgE;0Rf VjtCd BOX LgE;0H^IZnTdmCk LgE-1;L3;
    L7;L9;0DstSTRY| Lf VjtCd?TOP Rf;Z BOTTOM Rf;WWIz _i;NDOWN?H^IZnTdb_i;NUP?H^IZnTdb_i;
    NVjtCdbTRIkGi;NDOWN?H^IZnTdbTRIkGi;NUP?H^IZnTdbTRIkGi;NVjtCd?WAVE;NDOWN?H^IZnTdbWAVE;
    NUP?H^IZnTdbWAVE;NDOWN?H^IZnTd;NUP?H^IZnTd;NVjtCd?TOP *;Z BOTTOM *;0SQUeyFOOT;0vTURN|;
    0EJECT|;0VjtCd LgyEXTs=n;0METRICd BvVE;9LnG OVjmH^T;9SH^T OVj LnG;9LnG OVj TWOmH^TS;
    9TWOmH^TS OVj LnG;KJOgED;ARISEME;AET+SEME;9Ps>SEME;0Eez GROUND;0FUSE;0TOP PeszE=S;
    0BOTTOM PeszE=S;0TOP CURLY B+CKET;0BOTTOM CURLY B+CKET;0TOP T^TOISEm<LL B+CKET;
    0BOTTOM T^TOISEm<LL B+CKET;0WHITyT+PEZIUM;0BsZsyRgGb_i;0ST+fNESS;0F.TNESS;0AC CURRsT;
    0EiCTRICd gTjSECtn;0DECIMd EXPnsT|;0B.CK Rf-POgT&% TRIkGi;6*-POgT&% TRIkGi;
    6UP-POgT&% TRIkGi;6DOWN-POgT&% TRIkGi;6Rf-POgT&% TRIkGibVjtCd Be;6*-POgT&% TRIkGibVjtCd Be;
    6Rf-POgT&TRIkGib% VjtCd Be;0deM CLOCK;0STOPWATCH;0tMj CLOCK;0HOURG.SSbFLOWgGmkD;
    0B.CK MEDIUM *-POgT&TRIkGi;DRf-POgT&TRIkGi;DUP-POgT&TRIkGi;DDOWN-POgT&TRIkGi;0% VjtCd Be;
    0B.CKmQUeyF^mTOP;6_i F^ vC^D;0POWj|;6n-OFF|;8|;6SiEP|;0OBSjVj EYE|;0SYMBOL F^ NULL;
    BSTeT OF <ADgG;KTEXT;BsrOF TEXT;JRkSMIS=n;DQUIRY;BACKNOWiDGE;BBELL;CACKSPACE;
    BH^IZnTd >BU.tn;BLgyFEED;BVjtCd >BU.tn;BF^M FEED;BCeRIAGyvTURN;BSHIFT OUT;Hg;
    BDA> LgK ESCAPE;CEVICyCnTROL nE;QTWO;RHvE;QFOUR;BNEGAtVyACKNOWiDGE;BSYNCHRnOUS IDi;
    BsrOF TRkSMIS=n BLOCK;BCkCEL;BsrOF MEDIUM;BSUBStTUTE;BESCAPE;BFIimEPeAT^;BGROUPmEPeAT^;
    BvC^DmEPeAT^;BUNITmEPeAT^;BSPACE;BDEiTE;0BLkK|;0OPs BOX;0SYMBOL F^ NEWLgE;BDEiTEh TWO;
    BSUBStTUTEh TWO;@2440;0OCR HOOK;4CwIR;4F^K;4gVjTErF^K;4BELT BUCKi;5OW tE;
    5RkCH BkK IDstFICAtn;4AMOUNT OF C<CK;4DASH;4CUSTOMj ACCOUNT NUMBj;4% BACKS.SH;@2460;
    0_irDIGIT nE;ETWO;FHvE;EFOUR;FIVE;E=X;FEVs;EEf;ENgE;8NUMBj Ts;FEiVs;FTWELVE;GHIRTEs;
    FFOURTEs;GIFTEs;F=XTEs;GEVsTEs;FEfEs;FNgETEs;FTWsTY;0PeszE=ZErDIGIT nE;KTWO;LHvE;KFOUR;LIVE;
    K=X;LEVs;KEf;KNgE;ENUMBj Ts;LEiVs;LTWELVE;MHIRTEs;LFOURTEs;MIFTEs;L=XTEs;MEVsTEs;LEfEs;
    LNgETEs;LTWsTY;0DIGIT nyFULLmTOP;6TWO FULLmTOP;7HvyFULLmTOP;6FOUR FULLmTOP;7IVyFULLmTOP;
    6=X FULLmTOP;7EVs FULLmTOP;6Ef FULLmTOP;6NgyFULLmTOP;0NUMBj Ts FULLmTOP;7EiVs FULLmTOP",
   "7TWELVyFULLmTOP;8HIRTEs FULLmTOP;7FOURTEs FULLmTOP;8IFTEs FULLmTOP;7=XTEs FULLmTOP;
    8EVsTEs FULLmTOP;7EfEs FULLmTOP;7NgETEs FULLmTOP;7TWsTY FULLmTOP;0PeszE=ZEr.TgmMdaA;XB;XC;
    XD;XE;XF;XG;XH;XI;XJ;XK;XL;XM;XN;XO;XP;XQ;XR;XS;XT;XU;XV;XW;XX;XY;XZ;0_ir.Tg caA;TB;TC;TD;
    TE;TF;TG;TH;TI;TJ;TK;TL;TM;TN;TO;TP;TQ;TR;TS;TT;TU;TV;TW;TX;TY;TZ;EqA;RB;RC;RD;RE;RF;RG;RH;
    RI;RJ;RK;RL;RM;RN;RO;RP;RQ;RR;RS;RT;RU;RV;RW;RX;RY;RZ;8DIGIT ZjO;0NEGAtVy_irNUMBj EiVs;
    OTWELVE;PHIRTEs;OFOURTEs;PIFTEs;O=XTEs;PEVsTEs;OEfEs;ONgETEs;OTWsTY;0% _irDIGIT nE;LTWO;
    MHvE;LFOUR;MIVE;L=X;MEVs;LEf;LNgE;FNUMBj Ts;0NEGAtVy_irDIGIT ZjO;0BOX D+WgGS Lf H^IZnTd;
    D<AVY H^IZnTd;DLf VjtCd;D<AVY VjtCd;DLf TRIPi DASH H^IZnTd;D<AVY TRIPi DASH H^IZnTd;
    DLf TRIPi DASH VjtCd;D<AVY TRIPi DASH VjtCd;DLf QUADRUPi DASH H^IZnTd;
    D<AVY QUADRUPi DASH H^IZnTd;DLf QUADRUPi DASH VjtCd;D<AVY QUADRUPi DASH VjtCd;DLf DOWN?Rf;
    DDOWN Lf?Rf <AVY;I<AVY?Rf Lf;D<AVY DOWN?Rf;DLf DOWN?*;DDOWN Lf?* <AVY;I<AVY?* Lf;
    D<AVY DOWN?*;DLf UP?Rf;DUP Lf?Rf <AVY;G<AVY?Rf Lf;D<AVY UP?Rf;DLf UP?*;DUP Lf?* <AVY;
    G<AVY?* Lf;D<AVY UP?*;DLf VjtCd?Rf;DVjtCd Lf?Rf <AVY;DUP <AVY?Rf DOWN Lf;
    DDOWN <AVY?Rf UP Lf;DVjtCd <AVY?Rf Lf;DDOWN Lf?Rf UP <AVY;DUP Lf?Rf DOWN <AVY;
    D<AVY VjtCd?Rf;DLf VjtCd?*;DVjtCd Lf?* <AVY;DUP <AVY?* DOWN Lf;DDOWN <AVY?* UP Lf;
    DVjtCd <AVY?* Lf;DDOWN Lf?* UP <AVY;DUP Lf?* DOWN <AVY;D<AVY VjtCd?*;DLf DOWN?H^IZnTd;
    EEFT <AVY?Rf DOWN Lf;DRf <AVY?* DOWN Lf;DDOWN Lf?H^IZnTd <AVY;I<AVY?H^IZnTd Lf;
    DRf Lf?* DOWN <AVY;D* Lf?Rf DOWN <AVY;D<AVY DOWN?H^IZnTd;DLf UP?H^IZnTd;EEFT <AVY?Rf UP Lf;
    DRf <AVY?* UP Lf;DUP Lf?H^IZnTd <AVY;G<AVY?H^IZnTd Lf;DRf Lf?* UP <AVY;D* Lf?Rf UP <AVY;
    D<AVY UP?H^IZnTd;DLf VjtCd?H^IZnTd;EEFT <AVY?Rf VjtCd Lf;DRf <AVY?* VjtCd Lf;
    DVjtCd Lf?H^IZnTd <AVY;DUP <AVY?DOWN H^IZnTd Lf;DDOWN <AVY?UP H^IZnTd Lf;
    DVjtCd <AVY?H^IZnTd Lf;D* UP <AVY?Rf DOWN Lf;DRf UP <AVY?* DOWN Lf;D* DOWN <AVY?Rf UP Lf;
    DRf DOWN <AVY?* UP Lf;DDOWN Lf?UP H^IZnTd <AVY;DUP Lf?DOWN H^IZnTd <AVY;DRf Lf?* VjtCd <AVY;
    D* Lf?Rf VjtCd <AVY;D<AVY VjtCd?H^IZnTd;DLf % DASH H^IZnTd;D<AVY % DASH H^IZnTd;
    DLf % DASH VjtCd;D<AVY % DASH VjtCd;D% H^IZnTd;KVjtCd;FWNmgGi?Rf %;I%?RfmgGi;FUBi DOWN?Rf;
    FWNmgGi?* %;I%?*mgGi;FUBi DOWN?*;DUPmgGi?Rf %;G%?RfmgGi;D% UP?Rf;DUPmgGi?* %;G%?*mgGi;
    D% UP?*;DVjtCdmgGi?Rf %;M%?RfmgGi;D% VjtCd?Rf;DVjtCdmgGi?* %;M%?*mgGi;D% VjtCd?*;
    FWNmgGi?H^IZnTd %;I%?H^IZnTdmgGi;FUBi DOWN?H^IZnTd;DUPmgGi?H^IZnTd %;G%?H^IZnTdmgGi;
    D% UP?H^IZnTd;DVjtCdmgGi?H^IZnTd %;M%?H^IZnTdmgGi;D% VjtCd?H^IZnTd;DLf eC DOWN?Rf;W*;NUP?*;
    URf;JDIAGnd UPPj Rf TO LOWj *;Y* TO LOWj Rf;SCROSS;J*;JUP;JRf;JDOWN;D<AVY *;JUP;JRf;JDOWN;
    DLf *?<AVY Rf;JUP?<AVY DOWN;D<AVY *?Lf Rf;JUP?Lf DOWN;0UPPj HdF BLOCK;0LOWj nyEfH BLOCK;
    AQUeTj BLOCK;6zvyEfHS BLOCK;6HdF BLOCK;6FIVyEfHS BLOCK;6zvyQUeTjS BLOCK;6SEVs EfHS BLOCK;
    0FULL BLOCK;0*mEVs EfHS BLOCK;5zvyQUeTjS BLOCK;5FIVyEfHS BLOCK;5HdF BLOCK;5zvyEfHS BLOCK;
    5nyQUeTj BLOCK;9EfH BLOCK;0Rf HdF BLOCK;0LfmwDE;0MEDIUMmwDE;0DeKmwDE;0UPPj nyEfH BLOCK;
    0Rf nyEfH BLOCK;0QUADRkT LOWj *;FRf;9UPPj *;J?LOWj *?LOWj Rf;URf;OUPPj Rf?LOWj *;Z?LOWj Rf;
    FRf;K?LOWj *;Z?LOWj Rf;0B.CKmQUeE;0WHITEmQUeE;CbROUNDErC^NjS;DCn>g&B.CKmMdLmQUeE;
    0SQUeEbH^IZnTd FILL;CVjtCd FILL;C^zOGnd CROSSwTCH FILL;CUPPj * TO LOWj Rf FILL;
    IRf TO LOWj * FILL;CDIAGnd CROSSwTCH FILL;0B.CKmMdLmQUeE;0WHITEmMdLmQUeE;0B.CK vCTkGi;
    0WHITyvCTkGi;0B.CK VjtCd vCTkGi;0WHITyVjtCd vCTkGi;0B.CK PediLOG+M;0WHITyPediLOG+M;
    0B.CK UP-POgT&TRIkGi;0WHITyUP-POgT&TRIkGi;0B.CK UP-POgTgGmMdL TRIkGi",
   "0WHITyUP-POgTgGmMdL TRIkGi;0B.CK Rf-POgT&TRIkGi;0WHITyRf-POgT&TRIkGi;
    0B.CK Rf-POgTgGmMdL TRIkGi;0WHITyRf-POgTgGmMdL TRIkGi;0B.CK Rf-POgT&POgTj;
    0WHITyRf-POgT&POgTj;0B.CK DOWN-POgT&TRIkGi;0WHITyDOWN-POgT&TRIkGi;
    0B.CK DOWN-POgTgGmMdL TRIkGi;0WHITyDOWN-POgTgGmMdL TRIkGi;0B.CK *-POgT&TRIkGi;
    0WHITy*-POgT&TRIkGi;0B.CK *-POgTgGmMdL TRIkGi;0WHITy*-POgTgGmMdL TRIkGi;0B.CK *-POgT&POgTj;
    0WHITy*-POgT&POgTj;0B.CK DIAMnD;0WHITyDIAMnD;D Cn>g&B.CKmMdL DIAMnD;0FIS<YE;0LOZsGE;
    0WHITy_i;0~TEr_i;0_ibVjtCd FILL;0BULLSEYE;1.CK _i;0_ib* HdF B.CK;CRf HdF B.CK;
    CLOWj HdF B.CK;CUPPj HdF B.CK;IRf QUADRkT B.CK;CdL BUT UPPj * QUADRkT B.CK;0* HdF B.CK _i;
    0Rf HdF B.CK _i;0gVjSyBULiT;8WHITy_i;0UPPj HdF gVjSyWHITy_i;0LOWj HdF gVjSyWHITy_i;
    0UPPj * QUADRkT _ULe eC;6Rf QUADRkT _ULe eC;0LOWj Rf QUADRkT _ULe eC;6* QUADRkT _ULe eC;
    0UPPj HdF _i;0LOWj HdF _i;0B.CK LOWj Rf TRIkGi;C* TRIkGi;6UPPj * TRIkGi;CRf TRIkGi;
    0WHITyBULiT;0SQUeEb* HdF B.CK;CRf HdF B.CK;CUPPj * DIAGnd HdF B.CK;CLOWj Rf DIAGnd HdF B.CK;
    0WHITEmQUeEbVjtCd BISECT&LgE;6UP-POgT&TRIkGib~;0UP-POgT&TRIkGib* HdF B.CK;QRf HdF B.CK;
    0LeGy_i;0WHITEmQUeEbUPPj * QUADRkT;ILOWj * QUADRkT;ORf QUADRkT;IUPPj Rf QUADRkT;
    6_ibUPPj * QUADRkT;ILOWj * QUADRkT;ORf QUADRkT;IUPPj Rf QUADRkT;0UPPj * TRIkGi;6Rf TRIkGi;
    0LOWj * TRIkGi;0WHITyMEDIUMmQUeE;0B.CK MEDIUMmQUeE;0WHITyMEDIUMmMdLmQUeE;
    0B.CK MEDIUMmMdLmQUeE;0LOWj Rf TRIkGi;0B.CKmUNb+YS;0CLOUD;0UMBvL.;0SNOWMk;0COMET;0B.CKmTe;
    0WHITEmTe;0LfNgG;0zUNDjST^M;0SUN;0ASCsD&NODE;0DESCsD&NODE;0CnJUNCtn;0OPPO=tn;0B.CK TEiPHnE;
    0WHITyTEiPHnE;0BdLOT BOX;AbC<CK;GX;0Sdtv;0UMBvL.b+g DROPS;0HOT BEVjAGE;0WHITEmHOGI PIECE;
    0B.CKmHOGI PIECE;0SwMROCK;0vVjSErRO>TErFL^d <eT BULiT;0B.CK * POgT&gDEX;6Rf POgT&gDEX;
    0WHITy* POgT&gDEX;6UP POgT&gDEX;6Rf POgT&gDEX;6DOWN POgT&gDEX;0SKULL?CROSSBnES;0CAUtnx;
    0+DIOACtVEx;0BIOwZeDx;0CADUCEUS;0kKH;0^zODOX CROSS;0CHI RHO;1ROSS OF L^+gE;9JjUSdEM;
    0STe?CvSCsT;0Fe=|;0ADImwKt;0wMMj kDmICKi;0PEACE|;0Yg YkG;0TRIG+M F^ <AVs;C.KE;CFIv;CzUNDj;
    CWgD;DATj;CMOUN>g;CEez;0W<EL OF DHeMA;2ITyFROWN&FACE;6SMIL&FACE;0B.CKmMIL&FACE;
    0WHITEmUNb+YS;0FIRST QUeTj MOn;0.ST QUeTj MOn;0MjCURY;0FEMdEx;0Eez;0MdEx;0JUPITj;0SATURN;
    0URkUS;0NEPTUNE;0PLUTO;0eIES;0>URUS;0GEMgI;0CkCj;0iO;0VIRGO;0LIB+;0SC^PIUS;1AGITTeIUS;
    0CAPRIC^N;0AQUeIUS;0PISCES;0WHITyC<SS KgG;CQUEs;CROOK;CBISHOP;CKNf;CPAWN;0B.CK C<SS KgG;
    CQUEs;CROOK;CBISHOP;CKNf;CPAWN;6SPADEmUIT;0WHITy<eTmUIT;6DIAMnDmUIT;0B.CK CLUBmUIT;
    0WHITEmPADEmUIT;0B.CK <eTmUIT;6DIAMnDmUIT;0WHITyCLUBmUIT;0HOTmPRgGS;0QUeTj NOTE;0EfH NOTE;
    0BEAMErEfH NOTES;7=XTEsz NOTES;0MU=C F.Tx;6NATURdx;6SHePx;0WESTmYRIAC CROSS;
    0EASTmYRIAC CROSS;0UNIVjSd vCYCLgG|;0vCYCLgG| F^ TYPE-1 P.StCS;Q2 P.StCS;Q3 P.StCS;
    Q4 P.StCS;Q5 P.StCS;Q6 P.StCS;Q7 P.StCS;LGsjIC MATjIdS;0B.CK UNIVjSd vCYCLgG|;0vCYCirPAPj|;
    0PetdLY-vCYCirPAPj|;1jMksT PAPjx;0W<ELCwIR|;0DIyFACE-1;92;93;94;95;96;0WHITy_ib~ Rf;ITWO ~S;
    0B.CK _ibWHITy~ Rf;ITWO WHITy~S;0MnOG+M F^ YkG;Eg;0DIG+M F^ GvATj YkG;BiSSj Yg;JkG;
    BGvATj Yg;0WHITyF.G;0B.CK F.G;0wMMj?PICK;0kCH^;0CROSSEDmW^DS;0S>FF OF AESCU.PIUS;1CdES;
    0dEMBIC;0FLOWj;0GEe;0S>FF OF HjMES;0ATOM|;0FiUR-DE-LIS;0OUTLgErWHITEmTe;0zvyLgES CnVjG&Rf;
    N*;0WeNgGx;0HIGH VOL>GEx;0%rFEMdEx;8MdEx;0gTjLOCKErFEMdykrMdEx;0MdykrFEMdEx;5WIzmTROKEx;
    HkrMdykrFEMdEx;0VjtCd MdEbSTROKEx;0H^IZnTd MdEbSTROKEx;0MEDIUM WHITy_i;7B.CK _i;
    7SMdL WHITy_i;1eRIAGE|;0DIV^CE|;0UNMeRIErPeTNjSHIP|;0COFFg;0FUNjd URN;0NEUTj;0CjES;0Pd.S;
    0JUNO;0VES>;0CHIRn;0B.CK MOn LILIz;0SEXti;2MISEXti;0QUgCUNX;0SESQUIQUAD+TE;1OCCj BdL",
   "0BASEBdL;0SQUeErKEY;0WHITyD+UGHTS Mk;FKgG;0B.CK D+UGHTS Mk;FKgG;0SNOWMk WIzOUTmNOW;
    1UN BEHgrCLOUD;0+g;0B.CKmNOWMk;0zUNDj CLOUrkr+g;1URNErWHITEmHOGI PIECE;7B.CKmHOGI PIECE;
    0WHITyDIAMnrgmQUeE;0CROSS&LkES;0DISABirCe;0OPHIUCHUS;0PICK;0CemLIDgG;0<LMETbWHITyCROSS;
    0_irCROSS&LkES;1wgS;0NO sTRY;0dTjNATynE-WAY * WAY T+FFIC;0B.CK TWO-WAY * WAY T+FFIC;
    0WHITyTWO-WAY * WAY T+FFIC;0B.CK * LkyMjGE;0WHITy* LkyMjGE;0DRIVEmLOWx;
    0<AVY WHITyDOWN-POgT&TRIkGi;0* CLOSErsTRY;0SQUeEDmdtv;0FdL&DIAGnd g WHITy_i g B.CKmQUeE;
    0B.CK TRUCK;0vSTRICTEr* sTRY-1;M2;0ASTRnOMICd| F^ URkUS;0<AVY _ibSTROKykrTWO ~So;0Ps>G+M;
    0Rf-HkDErgTj.CErPs>G+M;0*-HkDErgTj.CErPs>G+M;0gVjTErPs>G+M;0B.CK CROSS nmHIELD;0SHgTOmHRgE;
    0CHURCH;1ASTi;0HIST^ICmITE;0GEe WIzOUT HUB;9 HkDiS;0MAP| F^ LfHOUSE;1OUN>g;0UMBvL. n GROUND;
    0FOUN>g;1.G g HOi;1jRY;0SAILBOAT;1QUeyFOUR C^NjS;1KIj;0ICEmKATE;0PjSnbBdL;0TsT;0JAPkESyBkK|;
    0<ADSTnyG+VEYeD|;0FUEL PUMP;0CUP n B.CKmQUeE;0WHITyF.GbH^IZnTd MIDDi B.CKmTRIPE;
    0B.CKmAFETYmCISS^S;0UPPj B.DEmCISS^S;0B.CKmCISS^S;0LOWj B.DEmCISS^S;0WHITEmCISS^S;
    6<AVY C<CK MeK;0TEiPHnyLOCAtnx;1APyDRIVE;0AIRPLkE;0sVELOPE;0+ISErFIST;7HkD;0VICT^Y HkD;
    0WRIT&HkD;0LOWj Rf PsCIL;0PsCIL;0UPPj Rf PsCIL;0WHITyNIB;0B.CK NIB;0C<CK MeK;0<AVY C<CK MeK;
    0MULtPLICAtn X;0<AVY MULtPLICAtn X;0BdLOT X;0<AVY BdLOT X;0OUTLgErGvEK CROSS;
    0<AVY GvEK CROSS;0OPs CsTv CROSS;0<AVY OPs CsTv CROSS;0.Tg CROSS;0SwDOWErWHITy.Tg CROSS;
    0OUTLgEr.Tg CROSS;0MdTESyCROSS;0STe OF DAVID;0FOUR TEeDROP-SPOKErASTjISK;
    5BdLOn-SPOKErASTjISK;0<AVY FOUR BdLOn-SPOKErASTjISK;0FOUR CLUB-SPOKErASTjISK;
    0B.CK FOUR POgTEDmTe;0WHITyFOUR POgTEDmTe;0SPeKiS;1TvSS OUTLgErWHITEmTe;0_irWHITEmTe;
    0OPs CsTv B.CKmTe;0B.CK CsTv WHITEmTe;0OUTLgErB.CKmTe;0<AVY OUTLgErB.CKmTe;0PgW<ELmTe;
    0SwDOWErWHITEmTe;0<AVY ASTjISK;0OPs CsTv ASTjISK;0EfmPOKErASTjISK;6POgTErB.CKmTe;EPgW<ELmTe;
    0=X POgTErB.CKmTe;0Ef POgTErvCtLgEe B.CKmTe;0<AVY Ef POgTErvCtLgEe B.CKmTe;
    0TWELVyPOgTErB.CKmTe;0=XTEs POgTErASTjISK;0TEeDROP-SPOKErASTjISK;
    0OPs CsTv TEeDROP-SPOKErASTjISK;0<AVY TEeDROP-SPOKErASTjISK;0=X PETdirB.CK?WHITyFLOvTTE;
    0B.CK FLOvTTE;0WHITyFLOvTTE;0Ef PETdirOUTLgErB.CK FLOvTTE;0_irOPs CsTv Ef POgTEDmTe;
    0<AVY TEeDROP-SPOKErPgW<EL ASTjISK;0SNOWF.KE;0Tf TRIFOLIATEmNOWF.KE;0<AVY C<VRnmNOWF.KE;
    0SPeKi;0<AVYmPeKi;0BdLOn-SPOKErASTjISK;0Ef TEeDROP-SPOKErPROPELiR ASTjISK;
    0<AVY Ef TEeDROP-SPOKErPROPELiR ASTjISK;0CROSS MeK;0SwDOWErWHITy_i;0NEGAtVEmQUeErCROSS MeK;
    0LOWj Rf DROP-SwDOWErWHITEmQUeE;0UPPj Rf DROP-SwDOWErWHITEmQUeE;0LOWj RfmwDOWErWHITEmQUeE;
    0UPPj RfmwDOWErWHITEmQUeE;0B.CK QUEStn MeK ^NAMsT;0WHITyQUEStn MeK ^NAMsT;
    6EXC.MAtn MeK ^NAMsT;0B.CK DIAMnrMgUS WHITyX;0<AVY EXC.MAtn MeK|;0Lf VjtCd Be;
    0MEDIUM VjtCd Be;0<AVY VjtCd Be;6SgGi TURNErCOMMA QUO>tn MeK ^NAMsT;
    DCOMMA QUO>tn MeK ^NAMsT;6% TURNErCOMMA QUO>tn MeK ^NAMsT;DCOMMA QUO>tn MeK ^NAMsT;
    6LOWmgGi COMMA QUO>tn MeK ^NAMsT;A% COMMA QUO>tn MeK ^NAMsT;0CURVEDmTEM PeAG+PHx ^NAMsT;
    0<AVY EXC.MAtn MeK ^NAMsT;6<eT EXC.MAtn MeK ^NAMsT;6B.CK <eT;0RO>TEr<AVY B.CK <eT BULiT;
    0FL^d <eT;0RO>TErFL^d <eT BULiT;0MEDIUM * PeszE=S ^NAMsT;7Rf PeszE=S ^NAMsT;
    7F.TTsEr* PeszE=S ^NAMsT;HRf PeszE=S ^NAMsT;7*-POgT&kGi B+CKET ^NAMsT;
    7Rf-POgT&kGi B+CKET ^NAMsT;0<AVY *-POgT&kGi QUO>tn MeK ^NAMsT;
    6Rf-POgT&kGi QUO>tn MeK ^NAMsT;6*-POgT&kGi B+CKET ^NAMsT;6Rf-POgT&kGi B+CKET ^NAMsT;
    0Lf * T^TOISEm<LL B+CKET ^NAMsT;6Rf T^TOISEm<LL B+CKET ^NAMsT;0MEDIUM * CURLY B+CKET ^NAMsT",
   "7Rf CURLY B+CKET ^NAMsT;0DgGBAT NEGAtVy_irDIGIT nE;VTWO;WHvE;VFOUR;WIVE;V=X;WEVs;VEf;VNgE;
    PNUMBj Ts;8_iDmkS-SjIF DIGIT nE;XTWO;YHvE;XFOUR;YIVE;X=X;YEVs;XEf;XNgE;RNUMBj Ts;
    8NEGAtVy_iDmkS-SjIF DIGIT nE;Z DIGIT TWO;Z DIGIT zvE;Z DIGIT FOUR;Z DIGIT FIVE;Z DIGITmIX;
    Z DIGITmEVs;Z DIGIT Ef;Z DIGIT NgE;Z NUMBj Ts;0<AVY WIDE-<ADErRful;6PLUSx;6MgUSx;6DIVI=nx;
    6SOUz EASTl;6Rful;6N^z EASTl;0D+FT&POgT Rful;0<AVY ROUND-tPPErRful;0TRIkGi-<ADErRful;
    0<AVY TRIkGi-<ADErRful;0DAS<rTRIkGi-<ADErRful;0<AVY DAS<rTRIkGi-<ADErRful;0B.CK Rful;
    0zvE-rTOP-LfErRful<AD;8BOTTOM-LfErRful<AD;0B.CK Rful<AD;0<AVY B.CK CURVErDOWNu?Rful;
    JUPu?Rful;0SQUAT B.CK Rful;0<AVY CnCAVE-POgTErB.CK Rful;0Rf-SwDErWHITyRful;
    0*-SwDErWHITyRful;0BACK-tLTEDmwDOWErWHITyRful;0FRnT-tLTEDmwDOWErWHITyRful;
    0<AVY LOWj Rf-SwDOWErWHITyRful;6UPPj Rf-SwDOWErWHITyRful;0NOTC<rLOWj Rf-SwDOWErWHITyRful;
    0CURLY LOOP;0NOTC<rUPPj Rf-SwDOWErWHITyRful;0_ir<AVY WHITyRful;0WHITE-FEAzjErRful;
    0B.CK-FEAzjEDmOUz EASTl;GRful;GN^z EASTl;0<AVY B.CK-FEAzjEDmOUz EASTl;MRful;MN^z EASTl;
    0TEeDROP-BeBErRful;0<AVY TEeDROP-SHkKErRful;0WEDGE->IirRful;0<AVY WEDGE->IirRful;
    0OPs-OUTLgErRful;0% CURLY LOOP;0zvyDIMs=nd kGi;0WHITyTRIkGi Cn>ggGmMdL WHITyTRIkGi;
    0PjPsDICULe;0OPsmUBSET;7PjSET;0*m-SwPErBAG DELIMITj;0Rfm-SwPErBAG DELIMITj;0^b~ g=DE;
    0vVjSEmOLIDUS PvCEDgGmUBSET;0SUPjSET PvCEDgGmOLIDUS;0VjtCd BebH^IZnTdmTROKE;
    0MAzEMAtCd RIS&DIAGnd;0LnG DIVI=n;0MAzEMAtCd FdL&DIAGnd;0SQUeErLOGICd kD;G^;
    0WHITyDIAMnDbCsTvr~;0kDb~;0EiMsT OF OPs&UPu;0LOWj Rf C^Njb~;0UPPj * C^Njb~;0* OUTj JOg;
    0Rf OUTj JOg;0FULL OUTj JOg;0LeGyUP >CK;6DOWN >CK;1EFT?Rf % TURNSti;F>CK;5MULtMAP;
    1nG Rf >CK;5* >CK;0UP >CKb_io;0LOZsGyDIVIDErBY H^IZnTd RUi;0WHITyCnCAVE-=DErDIAMnD;Rb*u tCK;
    XRfu tCK;6SQUeEb*u tCK;IRfu tCK;0MAzEMAtCd * WHITEmQUeyB+CKET;DRf WHITEmQUeyB+CKET;
    D* kGi B+CKET;DRf kGi B+CKET;D* % kGi B+CKET;DRf % kGi B+CKET;D* WHITyT^TOISEm<LL B+CKET;
    DRf WHITyT^TOISEm<LL B+CKET;D* F.TTsErPeszE=S;DRf F.TTsErPeszE=S;0UPu QUADRUPil;
    0DOWNu QUADRUPil;0ktCLOCKWISyGAPPEr_il;0CLOCKWISyGAPPEr_il;0Rflb_irPLUS;0LnG *ul;5Rful;
    5* Rfl;9u %l;5Rfu %l;5* Rf %l;9ul FROM Be;5Rful FROM Be;5*u %l FROM Be;5Rfu %l FROM Be;
    GSQUIGGil;0B+ILi PATTjN BLkK;G~S-1;L2;L12;L3;L13;L23;L123;L4;L14;L24;L124;L34;L134;L234;
    L1234;L5;L15;L25;L125;L35;L135;L235;L1235;L45;L145;L245;L1245;L345;L1345;L2345;L12345;L6;
    L16;L26;L126;L36;L136;L236;L1236;L46;L146;L246;L1246;L346;L1346;L2346;L12346;L56;L156;L256;
    L1256;L356;L1356;L2356;L12356;L456;L1456;L2456;L12456;L3456;L13456;L23456;L123456;L7;L17;
    L27;L127;L37;L137;L237;L1237;L47;L147;L247;L1247;L347;L1347;L2347;L12347;L57;L157;L257;
    L1257;L357;L1357;L2357;L12357;L457;L1457;L2457;L12457;L3457;L13457;L23457;L123457;L67;L167;
    L267;L1267;L367;L1367;L2367;L12367;L467;L1467;L2467;L12467;L3467;L13467;L23467;L123467;L567;
    L1567;L2567;L12567;L3567;L13567;L23567;L123567;L4567;L14567;L24567;L124567;L34567;L134567;
    L234567;L1234567;L8;L18;L28;L128;L38;L138;L238;L1238;L48;L148;L248;L1248;L348;L1348;L2348;
    L12348;L58;L158;L258;L1258;L358;L1358;L2358;L12358;L458;L1458;L2458;L12458;L3458;L13458;
    L23458;L123458;L68;L168;L268;L1268;L368;L1368;L2368;L12368;L468;L1468;L2468;L12468;L3468;
    L13468;L23468;L123468;L568;L1568;L2568;L12568;L3568;L13568;L23568;L123568;L4568;L14568;
    L24568;L124568;L34568;L134568;L234568;L1234568;L78;L178;L278;L1278;L378;L1378;L2378;L12378;
    L478;L1478;L2478;L12478;L3478;L13478;L23478;L123478;L578;L1578;L2578;L12578;L3578;L13578;
    L23578;L123578;L4578;L14578;L24578;L124578;L34578;L134578;L234578;L1234578;L678;L1678;L2678",
   "L12678;L3678;L13678;L23678;L123678;L4678;L14678;L24678;L124678;L34678;L134678;L234678;
    L1234678;L5678;L15678;L25678;L125678;L35678;L135678;L235678;L1235678;L45678;L145678;L245678;
    L1245678;L345678;L1345678;L2345678;L12345678;0Rfu TWO-<ADEDlbVjtCdmTROKE;X% VjtCdmTROKE;
    0*u %lbVjtCdmTROKE;0Rfu %lbVjtCdmTROKE;0* Rf %lbVjtCdmTROKE;0Rfu TWO-<ADEDl FROM Be;
    0*u %l FROM Be;0Rfu %l FROM Be;0DOWNulbH^IZnTdmTROKE;0UPulbH^IZnTdmTROKE;8TRIPil;
    0DOWNu TRIPil;0*u % DASHl;0Rfu % DASHl;0*u TRIPi DASHl;0Rfu TRIPi DASHl;
    CWO-<ADErTRIPi DASHl;BeROWb~TEDmTEM;0UPul TO Be;0DOWNul TO Be;0Rfulb>ILbVjtCdmTROKE;
    W% VjtCdmTROKE;BTWO-<ADEDlb>IL;ZILbVjtCdmTROKE;ZILb% VjtCdmTROKE;0*ul->IL;0Rful->IL;
    0*u %l->IL;0Rfu %l->IL;0*ul TO B.CK DIAMnD;0Rful TO B.CK DIAMnD;0*ul FROM Be TO B.CK DIAMnD;
    0Rful FROM Be TO B.CK DIAMnD;0N^z WEST kDmOUz EASTl;6EAST kDmOUz WESTl;6WESTlbHOOK;
    6EASTlbHOOK;0SOUz EASTlbHOOK;6WESTlbHOOK;0N^z WESTl?N^z EASTl;6EASTl kDmOUz EASTl;
    0SOUz EASTl kDmOUz WESTl;6WESTl?N^z WESTl;0RIS&DIAGnd CROSS&FdL&DIAGnd;
    0FdL&DIAGnd CROSS&RIS&DIAGnd;0SOUz EASTl CROSS&N^z EASTl;0N^z EASTl CROSSgGmOUz EASTl;
    0FdL&DIAGnd CROSS&N^z EASTl;0RIS&DIAGnd CROSSgGmOUz EASTl;0N^z EASTl CROSS&N^z WESTl;
    6WESTl CROSS&N^z EASTl;0WAVEl POgT&DIvCTLY Rf;0eROW POgT&Rfu zs CURV&UPu;Z&DOWNu;
    FDOWNu zs CURV&*u;ZNG Rfu;0Rf-=DyeC CLOCKWISEl;0*-=DyeC ktCLOCKWISEl;0TOP eC ktCLOCKWISEl;
    0BOTTOM eC ktCLOCKWISEl;0TOP eC CLOCKWISElbMgUS;8ktCLOCKWISElbPLUS;
    0LOWj RfmEMI_ULe CLOCKWISEl;6*mEMI_ULe ktCLOCKWISEl;0ktCLOCKWISyCLOSEr_il;
    0CLOCKWISyCLOSEr_il;0RfulomH^T *ul;0*ulomH^T Rful;0SH^T Rfulo *ul;0RfulbPLUS !;0*ulbPLUS !;
    0Rful zROUGH X;0* Rfl zROUGHmMdL _i;0UPu TWO-<ADEDl FROMmMdL _i;0* BeB UP Rf BeB DOWN HePOn;
    ADOWN Rf BeB UP HePOn;0UP BeB Rf DOWN BeB * HePOn;8* DOWN BeB Rf HePOn;
    0* BeB UP Rf BeB UP HePOn;0UP BeB Rf DOWN BeB Rf HePOn;0* BeB DOWN Rf BeB DOWN HePOn;
    0UP BeB * DOWN BeB * HePOn;0*u HePOnbBeB UP TO Be;0Rfu HePOnbBeB UP TO Be;
    0UPu HePOnbBeB Rf TO Be;0DOWNu HePOnbBeB Rf TO Be;0*u HePOnbBeB DOWN TO Be;
    0Rfu HePOnbBeB DOWN TO Be;0UPu HePOnbBeB * TO Be;0DOWNu HePOnbBeB * TO Be;
    0*u HePOnbBeB UP FROM Be;0Rfu HePOnbBeB UP FROM Be;0UPu HePOnbBeB Rf FROM Be;
    0DOWNu HePOnbBeB Rf FROM Be;0*u HePOnbBeB DOWN FROM Be;0Rfu HePOnbBeB DOWN FROM Be;
    0UPu HePOnbBeB * FROM Be;0DOWNu HePOnbBeB * FROM Be;0*u HePOnbBeB UPo *u HePOnbBeB DOWN;
    0UPu HePOnbBeB * BE=DyUPu HePOnbBeB Rf;0Rfu HePOnbBeB UPo Rfu HePOnbBeB DOWN;
    0DOWNu HePOnbBeB * BE=DyDOWNu HePOnbBeB Rf;0*u HePOnbBeB UPo Rfu HePOnbBeB UP;
    SDOWNo Rfu HePOnbBeB DOWN;0Rfu HePOnbBeB UPo *u HePOnbBeB UP;TDOWNo *u HePOnbBeB DOWN;
    0*u HePOnbBeB UPo LnG DASH;SDOWN ! LnG DASH;0Rfu HePOnbBeB UPo LnG DASH;TDOWN ! LnG DASH;
    0UPu HePOnbBeB * BE=DyDOWNu HePOnbBeB Rf;0DOWNu HePOnbBeB * BE=DyUPu HePOnbBeB Rf;
    0Rf %lbROUNDEr<AD;0EQUdSxo Rful;0tLDyOPjAT^o Rful;0*ulo tLDyOPjAT^;0Rfulo tLDyOPjAT^;
    NdMOST EQUd TO;0iSS-zko *ul;2FTul zROUGH iSS-zk;0GvATj-zko Rful;0SUBSETo Rful;
    0*ul zROUGHmUBSET;0SUPjSETo *ul;0* FISH >IL;0Rf FISH >IL;0UP FISH >IL;0DOWN FISH >IL;
    0TRIPi VjtCd Be DELIMITj;0Z NO>tnmPOT;BTYPyCOLn;0* WHITyCURLY B+CKET;0Rf WHITyCURLY B+CKET;
    0* WHITyPeszE=S;0Rf WHITyPeszE=S;0Z NO>tn * IMAGyB+CKET;BRf IMAGyB+CKET;B* BgD&B+CKET;
    BRf BgD&B+CKET;0*mQUeyB+CKETbUNDjBe;0RfmQUeyB+CKETbUNDjBe;0*mQUeyB+CKETbtCK g TOP C^Nj;
    0RfmQUeyB+CKETbtCK g BOTTOM C^Nj;0*mQUeyB+CKETbtCK g BOTTOM C^Nj",
   "0RfmQUeyB+CKETbtCK g TOP C^Nj;0* kGi B+CKETb~;0Rf kGi B+CKETb~;0* eC iSS-zk B+CKET;
    0Rf eC GvATj-zk B+CKET;0% * eC GvATj-zk B+CKET;7Rf eC iSS-zk B+CKET;
    0* B.CK T^TOISEm<LL B+CKET;0Rf B.CK T^TOISEm<LL B+CKET;0~TErFsCE;0VjtCd ZIGZAG LgE;
    0MEASUvrkGi OPs&*;0Rf kGi VeIkTbSQUeE;0MEASUvrRf kGib~;0kGibS g=DE;1CUTykGi;
    0SPHjICd kGi OPs&*;OUP;0TURNErkGi;0vVjSErkGi;0kGibUNDjBe;0vVjSErkGibUNDjBe;
    0OBLIQUykGi OPs&UP;MDOWN;0MEASUvrkGibOPs eM sD&gl POgT&UP?Rf;Z gl POgT&UP?*;
    Z gl POgT&DOWN?Rf;Z gl POgT&DOWN?*;Z gl POgT&Rf?UP;Z gl POgT&*?UP;Z gl POgT&Rf?DOWN;
    Z gl POgT&*?DOWN;0vVjSErEMPTYmET;0EMPTYmETbOVjBe;FSMdL _io;FRflo;F*lo;0_ibH^IZnTd Be;
    6rVjtCd Be;8PediL;8vVjSEmOLIDUS;8PjPsDICULe;
    6 DIVIDErBY H^IZnTd Be?TOP HdF DIVIDErBY VjtCd Be;7WIzmUPjIMPOSErX;
    6rktCLOCKWISE-RO>TErDIVI=nx;0UPl zROUGH _i;0_irWHITyBULiT;8BULiT;8iSS-zk;8GvATj-zk;
    6bSMdL _i TO zyRf;CTWO H^IZnTdmTROKES TO zyRf;0SQUeErRIS&DIAGndm.SH;8FdL&DIAGndm.SH;
    8ASTjISK;8SMdL _i;9QUeE;0TWO JOgEDmQUeES;1RIkGib~o;EUNDjBe;0S g TRIkGi;
    0TRIkGibSjIFS AT BOTTOM;0Rf TRIkGio * TRIkGi;0* TRIkGi BE=DyVjtCd Be;
    0VjtCd Be BE=DyRf TRIkGi;0BOWtEb* HdF B.CK;CRf HdF B.CK;1.CK BOWtE;0tMESb* HdF B.CK;
    BRf HdF B.CK;0WHITyHOURG.SS;0B.CK HOURG.SS;0* WIGGLY FsCE;0Rf WIGGLY FsCE;0* % WIGGLY FsCE;
    0Rf % WIGGLY FsCE;0gCOMPiTygFgITY;0tyOVj gFgITY;0gFgITY NEGATEDbVjtCd Be;0%-sDErMULtMAP;
    0SQUeEbCnTOUvrOUTLgE;0gCvASES AS;0SHUFFi PRODUCT;0EQUdSx kDmLkTErPediL;WbtLDEo;
    0IDstCd TO kDmLkTErPediL;0GiICHmTeK;0zjMODYNAMIC;0DOWN-POgT&TRIkGib* HdF B.CK;SRf HdF B.CK;
    0B.CK DIAMnDbDOWNl;6LOZsGE;0WHITy_ibDOWNl;0B.CK _ibDOWNl;0jR^-BevrWHITEmQUeE;DB.CKmQUeE;
    DWHITyDIAMnD;DB.CK DIAMnD;DWHITy_i;DB.CK _i;0RUi-DE.YED;1EVjSEmOLIDUS OPjAT^;0SOLIDUSbOVjBe;
    0vVjSEmOLIDUSbH^IZnTdmTROKE;0BIGmOLIDUS;4vVjSEmOLIDUS;0% PLUS;0TRIPi PLUS;
    0*-POgT&CURVErkGi B+CKET;0Rf-POgT&CURVErkGi B+CKET;0TgY;0MgY;0N-eY _ir~ OPjAT^;EPLUS OPjAT^;
    EtMES OPjAT^;6UNIn OPjAT^b~;QPLUS;6SQUeygTjSECtn OPjAT^;DUNIn OPjAT^;0TWO LOGICd?OPjAT^;
    C^ OPjAT^;0N-eY tMES OPjAT^;0MODULO TWOmUM;0SUMMAtnbgTEGRd;0QUADRUPi gTEGRd OPjAT^;
    0FgITyPeT gTEGRd;0gTEGRdb%mTROKE;9AVjAGEbS.SH;0_U.tn FUNCtn;0ktCLOCKWISygTEG+tn;
    0LgygTEG+tnbvCTkGULe PAz eOUNrPOi;MSEMI_ULe PAz eOUNrPOi;HNOT gCLUD&zyPOi;
    0gTEGRd eOUNrA POgT OPjAT^;0QUATjNIn gTEGRd OPjAT^;0gTEGRdb*ulbHOOK;EtMESx;EgTjSECtn;EUNIn;
    EOVjBe;EUNDjBe;0JOg;0LeGy* TRIkGi OPjAT^;0Z NO>tnmC<MA COMPO=tn;IPIPgG;JROJECtn;
    0PLUSxbSMdL _io;F_UMFiX ACCsTo;FtLDEo;F~ !;FtLDy!;FSUBSCRIPT TWO;FB.CK TRIkGi;0MgUSxbCOMMAo;
    G~ !;GFdL&~S;GRIS&~S;0PLUSx g * HdF _i;DRf HdF _i;0VECT^ ^ CROSS PRODUCT;0MULtPLICAtnxb~o;
    PUNDjBe;0SEMIDIvCT PRODUCTbBOTTOM CLOSED;1MASH PRODUCT;0MULtPLICAtnx g * HdF _i;NRf HdF _i;
    0_irMULtPLICAtnxb_UMFiX ACCsT;0MULtPLICAtnx g % _i;0_irDIVI=nx;0PLUSx g TRIkGi;
    0MgUSx g TRIkGi;1ULtPLICAtnx g TRIkGi;0gTjI^ PRODUCT;0RfHkrgTjI^ PRODUCT;
    0Z NO>tn v.tnd COMPO=tn;0AMdGAMAtn ^ COPRODUCT;0gTjSECtnb~;0UNInbMgUSx;BOVjBe;
    0gTjSECtnbOVjBe;ILOGICd kD;0UNInbLOGICd ^;6ABOVygTjSECtn;0gTjSECtno UNIn;
    0UNIno Beo gTjSECtn;0gTjSECtno Beo UNIn;0UNIn BE=DykrJOgEDbUNIn;
    0gTjSECtn BE=DykrJOgEDbgTjSECtn;0CLOSErUNInbSjIFS;7gTjSECtnbSjIFS;0%mQUeygTjSECtn;EUNIn;
    0CLOSErUNInbSjIFS kDmMASH PRODUCT;0LOGICd kDb~o;8^b~o;0% LOGICd kD;F^;
    0TWO gTjSECT&LOGICd kD;P^;0SLOP&LeGy^;EkD;0LOGICd ^ OVj.PP&LOGICd kD;8kDbMIDDimTEM",
   "8^bMIDDimTEM;8kDbH^IZnTd DASH;8^bH^IZnTd DASH;8kDb% OVjBe;HUNDjBe;H% UNDjBe;
    0SMdL VEEbUNDjBe;0LOGICd ^b% OVjBe;NUNDjBe;0Z NO>tn DOMAg ktvSTRICtn;BRkGyktvSTRICtn;
    0EQUdSxb~ !;0IDstCdb~o;0TRIPi H^IZnTd Beb% VjtCdmTROKE;RTRIPi VjtCdmTROKE;1ILDyOPjAT^b~o;
    KRIS&~S;0=MILe MgUSmIMILe;0CnGRUsTb~o;0EQUdSbASTjISK;0dMOST EQUd TOb_UMFiX ACCsT;
    1PPROXIMATELY EQUd ^ EQUd TO;0EQUdSxo PLUSx;0PLUSxo EQUdSx;0EQUdSxo tLDyOPjAT^;0% COLn EQUd;
    0TWO CnSECUtVyEQUdSxS;1HvyCnSECUtVyEQUdSxS;0EQUdSxbTWO ~So?TWO ~S !;3IVdsTbFOUR ~So;
    0iSS-zkb_i g=DE;0GvATj-zkb_i g=DE;0iSS-zkbQUEStn MeKo;0GvATj-zkbQUEStn MeKo;
    0iSS-zk ^mLkTErEQUd TO;0GvATj-zk ^mLkTErEQUd TO;0iSS-zk ^mLkTErEQUd TOb~ g=DE;
    0GvATj-zk ^mLkTErEQUd TOb~ g=DE;0iSS-zk ^mLkTErEQUd TOb~o;0GvATj-zk ^mLkTErEQUd TOb~o;
    0iSS-zk ^mLkTErEQUd TOb~o Rf;0GvATj-zk ^mLkTErEQUd TOb~o *;0iSS-zk ^ APPROXIMATE;
    0GvATj-zk ^ APPROXIMATE;0iSS-zk kDmgGi-LgyNOT EQUd TO;0GvATj-zk kDmgGi-LgyNOT EQUd TO;
    0iSS-zk?NOT APPROXIMATE;0GvATj-zk?NOT APPROXIMATE;0iSS-zko %-LgyEQUdo GvATj-zk;
    0GvATj-zko %-LgyEQUdo iSS-zk;0iSS-zkomIMILe ^ EQUd;0GvATj-zkomIMILe ^ EQUd;
    0iSS-zkomIMILeo GvATj-zk;0GvATj-zkomIMILeo iSS-zk;0iSS-zko GvATj-zko %-LgyEQUd;
    0GvATj-zko iSS-zko %-LgyEQUd;0iSS-zkomLkTErEQUdo GvATj-zkomLkTErEQUd;
    0GvATj-zkomLkTErEQUdo iSS-zkomLkTErEQUd;0SLkTErEQUd TO ^ iSS-zk;KGvATj-zk;KiSS-zkb~ g=DE;
    KGvATj-zkb~ g=DE;0%-LgyEQUd TO ^ iSS-zk;OGvATj-zk;CSLkTErEQUd TO ^ iSS-zk;WGvATj-zk;
    0=MILe ^ iSS-zk;BGvATj-zk;8ABOVyiSS-zko EQUdSx;EGvATj-zko EQUdSx;0% NESTEriSS-zk;EGvATj-zk;
    EiSS-zkbUNDjBe;0GvATj-zk OVj.PP&iSS-zk;DBE=DyiSS-zk;0iSS-zk CLOSErBY CURVE;
    0GvATj-zk CLOSErBY CURVE;0iSS-zk CLOSErBY CURVEomLkTErEQUd;
    0GvATj-zk CLOSErBY CURVEomLkTErEQUd;0SMdiR zk;0LeGj zk;0SMdiR zk ^ EQUd TO;
    0LeGj zk ^ EQUd TO;0EQUdSxbBUMPYo;0PvCEDESomgGi-LgyEQUdSx;0SUCCEEDSomgGi-LgyEQUdSx;
    0PvCEDESomgGi-LgyNOT EQUd TO;0SUCCEEDSomgGi-LgyNOT EQUd TO;0PvCEDESo EQUdSx;
    0SUCCEEDSo EQUdSx;0PvCEDESo NOT EQUd TO;0SUCCEEDSo NOT EQUd TO;0PvCEDESo dMOST EQUd TO;
    0SUCCEEDSo dMOST EQUd TO;0PvCEDESo NOT dMOST EQUd TO;0SUCCEEDSo NOT dMOST EQUd TO;
    0% PvCEDES;7SUCCEEDS;0SUBSETb~;2PjSETb~;2BSETbPLUSx !;2PjSETbPLUSx !;2BSETbMULtPLICAtnx !;
    2PjSETbMULtPLICAtnx !;2BSET OF ^ EQUd TOb~o;2PjSET OF ^ EQUd TOb~o;2BSET OFo EQUdSx;
    2PjSET OFo EQUdSx;2BSET OFo tLDyOPjAT^;2PjSET OFo tLDyOPjAT^;2BSET OFo dMOST EQUd TO;
    2PjSET OFo dMOST EQUd TO;2BSET OFo NOT EQUd TO;2PjSET OFo NOT EQUd TO;1QUey* OPs BOX OPjAT^;
    7Rf OPs BOX OPjAT^;0CLOSEDmUBSET;9PjSET;9BSET ^ EQUd TO;9PjSET ^ EQUd TO;0SUBSETomUPjSET;
    2PjSETomUBSET;2BSETomUBSET;2PjSETomUPjSET;9BE=DEmUBSET;GkrJOgErBY DASHbSUBSET;
    0EiMsT OF OPs&DOWNu;0PITCHF^KbTEyTOP;0TRkSVjSd gTjSECtn;0F^KgG;0NnF^KgG;0SH^T * >CK;
    6DOWN >CK;6UP >CK;0PjPsDICULebS;0VjtCd Be TRIPi Rf TURNSti;0% VjtCd Be * TURNSti;
    0VjtCd Be % * TURNSti;0% VjtCd Be % * TURNSti;0LnG DASH FROM * MEMBj OF % VjtCd;
    0SH^T DOWN >CKbOVjBe;6UP >CKbUNDjBe;EABOVEmH^T DOWN >CK;0% DOWN >CK;7UP >CK;7STROKyNOTx;
    0vVjSEr%mTROKyNOTx;0DOES NOT DIVIDEbvVjSErNEGAtnm.SH;0VjtCd LgEb_io;Q!;0DOWN >CKb_i !;
    0PediLbH^IZnTdmTROKE;EtLDyOPjAT^;0TRIPi VjtCd Be BgeY v.tn;KWIz H^IZnTdmTROKE;7COLn OPjAT^;
    7NESTEriSS-zk;EGvATj-zk;0%-LgEmLkTEriSS-zk ^ EQUd TO;KGvATj-zk ^ EQUd TO;
    0TRIPimOLIDUS BgeY v.tn;0LeGyTRIPi VjtCd Be OPjAT^;0%mOLIDUS OPjAT^;0WHITyVjtCd Be;
    0N-eY WHITyVjtCd Be;1^z EAST WHITEl;6WEST WHITEl;0SOUz EAST WHITEl;6WEST WHITEl",
   "0* Rf WHITEl;4u B.CKl;0UPu B.CKl;0DOWNu B.CKl;0N^z EAST B.CKl;6WEST B.CKl;0SOUz EAST B.CKl;
    6WEST B.CKl;0* Rf B.CKl;0UP DOWN B.CKl;0RfulbtP DOWNu;QUPu;0*ulbtP DOWNu;PUPu;
    0SQUeEbTOP HdF B.CK;CBOTTOM HdF B.CK;CUPPj Rf DIAGnd HdF B.CK;CLOWj * DIAGnd HdF B.CK;
    0DIAMnDb* HdF B.CK;DRf HdF B.CK;DTOP HdF B.CK;DBOTTOM HdF B.CK;1OTTEDmQUeE;0B.CK LeGEmQUeE;
    0WHITyLeGEmQUeE;0B.CK VjYmMdLmQUeE;0WHITyVjYmMdLmQUeE;0B.CK Ps>Gn;0WHITyPs>Gn;6<XAGn;
    0B.CK <XAGn;0H^IZnTd B.CK <XAGn;0B.CK LeGy_i;6MEDIUM DIAMnD;0WHITyMEDIUM DIAMnD;
    0B.CK MEDIUM LOZsGE;0WHITyMEDIUM LOZsGE;0B.CKmMdL DIAMnD;CLOZsGE;0WHITEmMdL LOZsGE;
    0B.CK H^IZnTd ELLIPSE;0WHITyH^IZnTd ELLIPSE;0B.CK VjtCd ELLIPSE;0WHITyVjtCd ELLIPSE;
    0*lbSMdL _i;0zvy*ulS;0*lb_irPLUS;1nG *umQUIGGil;1EFTu TWO-<ADEDlbVjtCdmTROKE;W% VjtCdmTROKE;
    RFROM Be;LTRIPi DASHl;AeROWb~TEDmTEM;L>ILbVjtCdmTROKE;V% VjtCdmTROKE;ATWO-<ADEDlb>IL;
    ZLbVjtCdmTROKE;ZLb% VjtCdmTROKE;AeROW zROUGH X;0WAVEl POgT&DIvCTLY *;0EQUdSxo *ul;
    0vVjSytLDyOPjAT^o *ul;0*ulo vVjSydMOST EQUd TO;0Rful zROUGH GvATj-zk;PSUPjSET;0*u QUADRUPil;
    0Rfu QUADRUPil;1EVjSytLDyOPjAT^o Rful;1fulo vVjSydMOST EQUd TO;0tLDyOPjAT^o *ul;
    0*ulo dMOST EQUd TO;MvVjSytLDyOPjAT^;0Rfulo vVjSytLDyOPjAT^;0DOWNu TRIkGi-<ADErZIGZAGl;
    0SH^TmLkTErN^zl;6BACKSLkTEDmOUzl;0WHITyMEDIUMmTe;0B.CKmMdLmTe;0WHITEmMdLmTe;
    0B.CK Rf-POgT&Ps>Gn;0WHITyRf-POgT&Ps>Gn;0<AVY LeGy_i;6OVdbOVd g=DE;6_ib_i g=DE;BE;CDmdtv;
    0SLkTErN^zlbHOOKEr<AD;0BACKSLkTEDmOUzlbHOOKEr>IL;0SLkTErN^zlbH^IZnTd >IL;
    0BACKSLkTEDmOUzlbH^IZnTd >IL;1sTl POgT&DOWNu zs N^z EAST;0SH^T BsTl POgT&DOWNu zs N^z EAST;
    0*u TRIkGi-<ADEDl;0UPu TRIkGi-<ADEDl;0Rfu TRIkGi-<ADEDl;0DOWNu TRIkGi-<ADEDl;
    0* Rf TRIkGi-<ADEDl;0UP DOWN TRIkGi-<ADEDl;0N^z WEST TRIkGi-<ADEDl;6EAST TRIkGi-<ADEDl;
    0SOUz EAST TRIkGi-<ADEDl;6WEST TRIkGi-<ADEDl;0*u TRIkGi-<ADErDAS<Dl;0UPu TRIkGi-<ADErDAS<Dl;
    0Rfu TRIkGi-<ADErDAS<Dl;0DOWNu TRIkGi-<ADErDAS<Dl;0CLOCKWISyTRIkGi-<ADErOPs _il;
    0ktCLOCKWISyTRIkGi-<ADErOPs _il;0*u TRIkGi-<ADEDl TO Be;0UPu TRIkGi-<ADEDl TO Be;
    0Rfu TRIkGi-<ADEDl TO Be;0DOWNu TRIkGi-<ADEDl TO Be;@2B76;0N^z WEST TRIkGi-<ADEDl TO Be;
    6EAST TRIkGi-<ADEDl TO Be;0SOUz EAST TRIkGi-<ADEDl TO Be;6WEST TRIkGi-<ADEDl TO Be;
    0*u TRIkGi-<ADEDlb% H^IZnTdmTROKE;0UPu TRIkGi-<ADEDlb% H^IZnTdmTROKE;
    0Rfu TRIkGi-<ADEDlb% H^IZnTdmTROKE;0DOWNu TRIkGi-<ADEDlb% H^IZnTdmTROKE;0H^IZnTd >B KEY;
    0VjtCd >B KEY;0*u TRIkGi-<ADEDl OVj Rfu TRIkGi-<ADEDl;
    0UPu TRIkGi-<ADEDl *u OF DOWNu TRIkGi-<ADEDl;0Rfu TRIkGi-<ADEDl OVj *u TRIkGi-<ADEDl;
    0DOWNu TRIkGi-<ADEDl *u OF UPu TRIkGi-<ADEDl;0*u TRIkGi-<ADErPAIvDlS;
    0UPu TRIkGi-<ADErPAIvDlS;0Rfu TRIkGi-<ADErPAIvDlS;0DOWNu TRIkGi-<ADErPAIvDlS;
    0*u B.CK _irWHITEl;0UPu B.CK _irWHITEl;0Rfu B.CK _irWHITEl;0DOWNu B.CK _irWHITEl;
    0ktCLOCKWISyTRIkGi-<ADErRf U-SwPEDl;UBOTTOM U-SwPEDl;U* U-SwPEDl;UTOP U-SwPEDl;0vTURN *;7Rf;
    0NEWLgy*;8Rf;0FOUR C^NjlS _L&ktCLOCKWISE;0Rfu B.CKl;@2B97;0SYMBOL F^ TYPyA EiCTRnICS;
    0zvE-rTOP-LfEr*u EQUI.Tjdl<AD;8Rf-LfErUPu EQUI.Tjdl<AD;8TOP-LfErRfu EQUI.Tjdl<AD;
    8*-LfErDOWNu EQUI.Tjdl<AD;0B.CK *u EQUI.Tjdl<AD;6UPu EQUI.Tjdl<AD;6Rfu EQUI.Tjdl<AD;
    6DOWNu EQUI.Tjdl<AD;0DOWNu TRIkGi-<ADEDlbLnG tP *u;ZH LnG tP Rfu;
    0UPu TRIkGi-<ADEDlbLnG tP *u;ZLnG tP Rfu;0*u TRIkGi-<ADEDlbLnG tP UPu;
    0Rfu TRIkGi-<ADEDlbLnG tP UPu;0*u TRIkGi-<ADEDlbLnG tP DOWNu;
    0Rfu TRIkGi-<ADEDlbLnG tP DOWNu;0B.CK CURVErDOWNu?*ul;RRful;DUPu?*ul;PRful;D*u?UPul",
   "DRfu?UPul;D*u?DOWNul;DRfu?DOWNul;0RIBBnl DOWN *;IRf;DUP *;GRf;D* UP;DRf UP;D* DOWN;DRf DOWN;
    0UPu WHITEl FROM BebH^IZnTd Be;2l<Arg A vCTkGi BOX;0OVj.PP&WHITEmQUeES;IkrB.CKmQUeES;
    CB.CKmQUeES;0BdLOT BOXbLf X;0_irX;8BOLrX;0B.CKmQUeyCsTvD;6DIAMnrCsTvD;0TURNErB.CK Ps>Gn;
    0H^IZnTd B.CK OC>Gn;0B.CK OC>Gn;6MEDIUM UP-POgT&TRIkGi CsTvD;DDOWN-POgT&TRIkGi CsTvD;
    D*-POgT&TRIkGi CsTvD;DRf-POgT&TRIkGi CsTvD;0NEPTUNEh TWO;0TOP HdF B.CK _i;
    0BOTTOM HdF B.CK _i;0Lf FOUR POgTErB.CK CUSP;0RO>TErLf FOUR POgTErB.CK CUSP;
    0WHITyFOUR POgTErCUSP;0RO>TErWHITyFOUR POgTErCUSP;0SQUeyPO=tn gDICAT^;0UNCj>gTYx;0GROUP MeK;
    0PLUTOh TWO;CHvE;BFOUR;CIVE;0TRkSPLUTO;0PROSjPgA;0AST+EA;0HYGIEA;0PHOLUS;0NESSUS;
    0WHITyMOnmEiNA;0B.CK DIAMnrn CROSS;0TRUyLf MOn e>;0CUPIDO;0wDES;0ZEUS;0KRnOS;0APOLLn;
    1DMETOS;0VULCkUS;0POSEIDn;0* HdF B.CKmTe;0Rf HdF B.CKmTe;0STeb* HdF B.CK;ARf HdF B.CK;
    0*u TWO-<ADEDlbTRIkGil<ADS;0UPu TWO-<ADEDlbTRIkGil<ADS;0Rfu TWO-<ADEDlbTRIkGil<ADS;
    0DOWNu TWO-<ADEDlbTRIkGil<ADS;0jISh nE;ATWO;0SEDNA;0RUS=k ASTROLOGICd| VIGgti;SNOVIi;SQUgti;
    SBgOVIi;SSs>Gn;STvDECIi;0EQUdSxbgFgITY !;0UNITED|;0SEPeATED|;0%D|;0PASSED|;0vVjSErRf kGi;
    0<LLSCHvIBj PAUSE|;0G.GOLItC caAZU;QBUKY;QVEDE;QG.GOLI;QDOBRO;QYESTU;QZHIVETE;QDZELO;
    QZEMLJA;QIZ<;RNItd IZ<;QI;QDJjVI;QKAKO;QLJUDIJE;QMYSLITE;QNASHI;QnU;QPOKOJI;QRIT=;QSLOVO;
    QTVRIDO;QUKU;QFRITU;QHjU;QOTU;QPE;QSH>;QT=;QCHRIVI;QSw;QYjU;TI;RAt;QSPIDjY w;QYU;QSMdL YUS;
    Zb>IL;QYO;QIO>TEDmMdL YUS;QBIG YUS;QIO>TErBIG YUS;QFI>;QIZHITSA;QSH>PIC;QTROKU>St A;
    Q.TgATyMYSLITE;QCAUDATyCHRIVI;BqAZU;OBUKY;OVEDE;OG.GOLI;ODOBRO;OYESTU;OZHIVETE;ODZELO;
    OZEMLJA;OIZ<;PNItd IZ<;OI;ODJjVI;OKAKO;OLJUDIJE;OMYSLITE;ONASHI;OnU;OPOKOJI;ORIT=;OSLOVO;
    OTVRIDO;OUKU;OFRITU;OHjU;OOTU;OPE;OSH>;OT=;OCHRIVI;OSw;OYjU;RI;PAt;OSPIDjY w;OYU;OSMdL YUS;
    Xb>IL;OYO;OIO>TEDmMdL YUS;OBIG YUS;OIO>TErBIG YUS;OFI>;OIZHITSA;OSH>PIC;OTROKU>St A;
    O.TgATyMYSLITE;OCAUDATyCHRIVI;0.Tg caLb% Be;6qLb% Be;6caLbMIDDi tLDE;LPbSTROKE;LRb>IL;
    6qAbSTROKE;JTbDIAGndmTROKE;6caHbDESCsDj;6qHbDESCsDj;6caKbDESCsDj;6qKbDESCsDj;6caZbDESCsDj;
    6qZbDESCsDj;6cadPw;LMbHOOK;LTURNErA;TLPw;6qVbRf HOOK;6caWbHOOK;6qWbHOOK;JVbCURL;6caHdF H;
    6qHdF H;J>ILiSS PHI;JEbNOTCH;JTURNErRb>IL;JObLOW R&g=DE;6iTTjmMdL cL TURNErE;
    6SUBSCRIPTmMdaJ;0MODIFIj ,cL V;0.Tg caSbSWASH >IL;LZbSWASH >IL;0COPtC cadFA;7qdFA;7caVIDA;
    7qVIDA;7caGAMMA;7qGAMMA;7caDdDA;7qDdDA;7caEIE;7qEIE;7caSOU;7qSOU;7caZA>;7qZA>;7cawTE;7qwTE;
    7cazEzE;7qzEzE;7caIAUDA;7qIAUDA;7caKAPA;7qKAPA;7ca.U.;7q.U.;7caMI;7qMI;7caNI;7qNI;7caK=;
    7qK=;7caO;7qO;7caPI;7qPI;7caRO;7qRO;7ca=MA;7q=MA;7ca>U;7q>U;7caUA;7qUA;7caFI;7qFI;7caKHI;
    7qKHI;7caP=;7qP=;7caOOU;7qOOU;7caDIdECT-P dEF;7qDIdECT-P dEF;7caOLrCOPtC Ag;7qOLrCOPtC Ag;
    7caCRYPTOG+MMIC EIE;7qCRYPTOG+MMIC EIE;7caDIdECT-P KAPA;7qDIdECT-P KAPA;7caDIdECT-P NI;
    7qDIdECT-P NI;7caCRYPTOG+MMIC NI;7qCRYPTOG+MMIC NI;7caOLrCOPtC OOU;7qOLrCOPtC OOU;7caSAMPI;
    7qSAMPI;7caCROSSEDm<I;7qCROSSEDm<I;7caOLrCOPtCm<I;7qOLrCOPtCm<I;7caOLrCOPtC ESH;
    7qOLrCOPtC ESH;7caAKHMIMIC K<I;7qAKHMIMIC K<I;7caDIdECT-P H^I;7qDIdECT-P H^I;
    7caOLrCOPtC H^I;7qOLrCOPtC H^I;7caOLrCOPtC w;7qOLrCOPtC w;7caL-SwPErw;7qL-SwPErw;
    7caOLrCOPtC <I;7qOLrCOPtC <I;7caOLrCOPtC wT;7qOLrCOPtC wT;7caOLrCOPtC GkGIA;
    7qOLrCOPtC GkGIA;7caOLrCOPtC DJA;7qOLrCOPtC DJA;7caOLrCOPtCmHIMA;7qOLrCOPtCmHIMA;
    7caOLrNUBIkmHIMA;7qOLrNUBIkmHIMA;7caOLrNUBIk NGI;7qOLrNUBIk NGI;7caOLrNUBIk NYI;
    7qOLrNUBIk NYI;7caOLrNUBIk WAU;7qOLrNUBIk WAU;8YMBOL KAI;EMI RO;EPI RO;ES>UROS;E>U RO;
    EKHI RO;ESHIMAmIMA;7caCRYPTOG+MMICm<I;7qCRYPTOG+MMICm<I;7caCRYPTOG+MMIC GkGIA",
   "7qCRYPTOG+MMIC GkGIA;7COMBg&NIo;HSPIRITUS ASPj;QiNIS;8API>aBOwIRIC K<I;7qBOwIRIC K<I;@2CF9;
    7OLrNUBIk FULLmTOP;IDIvCT QUEStn MeK;IgDIvCT QUEStn MeK;IVjSyDIVIDj;7F+Ctn nyHdF;8ULLmTOP;
    7M^PHOLOGICd DIVIDj;0GE^GIkmMdak;MBk;MGk;MDn;Ms;MVg;MZs;MTk;Mg;MKk;M.S;MMk;MNe;Mn;MPe;MZHe;
    M+E;MSk;MTe;MUN;MPHe;MKHe;MGHk;MQe;MSHg;MCHg;Nk;MJIL;MCIL;NHe;MXk;MJHk;MwE;NE;NIE;MWE;MHe;
    NOE;@2D27;MYN;@2D2D;MAs;@2D30;0tFgAGH ,YA;IB;JH;IG;JHH;GBjBj ACADEMY YAJ;GYAJ;ID;JH;JD;KH;
    HEY;HAF;IK;GTUeEG YAK;GYAKHH;IH;GBjBj ACADEMY YAH;GTUeEG YAH;GYAHH;IA;IKH;GTUeEG YAKH;GYAQ;
    GTUeEG YAQ;GYI;HAZH;GAwGGe YAZH;GTUeEG YAZH;GYd;IM;IN;GTUeEG YAGN;PNG;GYAP;HU;He;JR;IGH;
    GTUeEG YAGH;GAYj YAGH;GYAS;JS;JH;IT;JH;ICH;ITT;IV;IW;IY;IZ;G>WELiMET YAZ;GYAZZ;HE;HO;@2D6F;
    9MODIFIj ,.BIdIZAtn MeK;9SEPeAT^ MeK;@2D7F;9CnSnkT JOgj;0EzIOPICmYL.Bi LOA;IMOA;IROA;ISOA;
    JHOA;IBOA;ITOA;ICOA;INOA;JYOA;IGLOTTd OA;IZOA;IDOA;JDOA;IJOA;IzOA;ICHOA;IPHOA;JOA;IGGWA;LI;
    LEE;LE;@2DA0;ISSA;KU;KI;KAA;KEE;KE;KO;@2DA8;ICCA;KU;KI;KAA;KEE;KE;KO;@2DB0;IZZA;KU;KI;KAA;
    KEE;KE;KO;@2DB8;ICCw;LU;LI;LAA;LEE;LE;LO;@2DC0;IQYA;KU;KI;KAA;KEE;KE;KO;@2DC8;IKYA;KU;KI;
    KAA;KEE;KE;KO;@2DD0;IXYA;KU;KI;KAA;KEE;KE;KO;@2DD8;IGYA;KU;KI;KAA;KEE;KE;KO;@2DE0;
    0COMBg&CYRILLIC ,BE;QVE;QG<;QDE;QZ<;RE;QKA;QEL;RM;RN;QO;QPE;Qj;RS;QTE;Qw;QTSE;QC<;QSw;SCw;
    QFI>;QES-TE;QA;QIE;QDJjV;QMnOG+PH UK;QYAT;RU;QIOtFIErA;QLITTi YUS;QBIG YUS;QIOtFIErBIG YUS;
    0Rf kGimUBStTUtn MeKj;C~TEDmUBStTUtn MeKj;0*mUBStTUtn B+CKET;0RfmUBStTUtn B+CKET;
    0* ~TEDmUBStTUtn B+CKET;0Rf ~TEDmUBStTUtn B+CKET;1AISErgTjPO.tn MeKj;7~TErgTjPO.tn MeKj;
    0~TErTRkSPO=tn MeKj;0* TRkSPO=tn B+CKET;0Rf TRkSPO=tn B+CKET;1AISEDmQUeE;
    0* +ISErOMIS=n B+CKET;0Rf +ISErOMIS=n B+CKET;0EDIT^Id C^nIS;0PeAG+PHOS;0F^KErPeAG+PHOS;
    0vVjSErF^KErPeAG+PHOS;0HYPODIASTOi;0~TErOBELOS;2WNu kCO+;0UPu kCO+;0~TErRf-POgT&kGi;
    2UBi OBLIQUyHYPHs;0gVjTErgTjROBkG;0PdM BRkCH;0HYPHsbDIAjE=S;0tLDEbRgGo;
    0* LOW PeAPH+SyB+CKET;0Rf LOW PeAPH+SyB+CKET;0tLDEb~o;F!;0* VjtCd BebQUILL;
    0Rf VjtCd BebQUILL;0TOP * HdF B+CKET;4Rf HdF B+CKET;0BOTTOM * HdF B+CKET;7Rf HdF B+CKET;
    0*mIDEWAYS U B+CKET;0RfmIDEWAYS U B+CKET;0* % PeszE=S;0Rf % PeszE=S;
    0TWO ~S OVj ny~ PUNCTUAtn;0ny~ OVj TWO ~S PUNCTUAtn;0SQUeErFOUR ~ PUNCTUAtn;0FIVy~ MeK;
    0vVjSErQUEStn MeK;0VjtCd tLDE;0R&POgT;0W^DmEPeAT^ MIDDi ~;0TURNErCOMMA;0+ISEr~;7COMMA;
    0TURNEDmEMICOLn;0DAGGjb* GUeD;CRf GUeD;0TURNErDAGGj;1OP HdFmECtnx;1WO-EM DASH;1HvE-EM DASH;
    0STsOG+PHIC FULLmTOP;0VjtCdmIX ~S;0WIGGLY VjtCd LgE;0CAPITULUM;0% HYPHs;0vVjSErCOMMA;
    0% LOW-vVjSED-9 QUO>tn MeK;1ASHb* UPTURN;1OUBimUSPs=n MeK;0gVjTErLOW KAVYKA;JbKAVYKAo;
    0LOW KAVYKA;Ab~;0%m>CKErCOMMA;2TTEDmOLIDUS;0TRIPi DAGGj;0MEDIEVd COMMA;0PeAG+PHUS MeK;
    1UNCTUS EiVATUS MeK;0C^NISH VjSyDIVIDj;1ROSS PATTYbRf CROSSBe;H* CROSSBe;0tRnIkx cL ET;
    0MEDIEVd EXC.MAtn MeK;9QUEStn MeK;0*mQUeyB+CKETbSTROKE;0RfmQUeyB+CKETbSTROKE;
    0*mQUeyB+CKETb%mTROKE;0RfmQUeyB+CKETb%mTROKE;0TOP HdF * PeszE=S;9Rf PeszE=S;
    0BOTTOM HdF * PeszE=S;CRf PeszE=S;0OBLIQUyHYPHs;@2E80;0CJK +DICd vPEAT;CCLIFF;CSECnrnE;JTWO;
    KHvE;CPjSn;CBOX;C>Bi;CKNIFynE;ITWO;CDIVgAtn;CSEd;DMdL nE;ITWO;C.MynE;HTWO;IHvE;HFOUR;CSNAKE;
    CzvAD;CSNOUT nE;ITWO;C<eT nE;ITWO;DkD;C+P;@2E9B;CCHOKE;CSUN;CMOn;CDEAz;CMOzj;CCIVILIk;
    CWATj nE;ITWO;CFIv;CPAW nE;GTWO;C=MPLIFIErHdF TvyTRUNK;CCOW;CDOG;CJADE;CBOLT OF CLOz;CEYE;
    CSPIRIT nE;JTWO;CBAMBOO;C=LK;CC-=MPLIFIEDmILK;CNET nE;GTWO;HHvE;GFOUR;CMESH;CS<EP;C+M;CEWE;
    COLD;CBRUSH nE;ITWO;CMEAT;D^Te;CG+SS nE;ITWO;JHvE;CtGj;CCLOzES;CWEST nE;HTWO;
    CC-=MPLIFIEDmEE;C=MPLIFIErH^N;CH^N;CC-=MPLIFIEDmPEECH;Q<LL;CFOOT;CC-=MPLIFIErCeT",
   "C=MPLIFIErWdK;CWdK nE;HTWO;CCITY;D-=MPLIFIErGOLD;CLnG nE;HTWO;CC-=MPLIFIErLnG;PGATE;
    CMOUNrnE;ITWO;C+g;CBLUE;CC-=MPLIFIErTkNEriAzj;PiAF;PWgD;PFLY;CEAT nE;GTWO;HHvE;
    CC-=MPLIFIErEAT;C<AD;CC-=MPLIFIErH^SE;CBnE;CGHOST;CC-=MPLIFIErFISH;PBIRD;PSdT;
    C=MPLIFIErW<AT;NYELLOW;CC-=MPLIFIErFROG;CJ-=MPLIFIErEVs;CC-=MPLIFIErEVs;CJ-=MPLIFIErTOOz;
    CC-=MPLIFIErTOOz;CJ-=MPLIFIErD+Gn;CC-=MPLIFIErD+Gn;CTURTi;CJ-=MPLIFIErTURTi;
    CC-=MPLIFIErTURTi;@2F00;0KkGXI +DICd nE;FLgE;F~;FS.SH;GECnD;FHOOK;FTWO;FLID;FMk;FiGS;FsTj;
    Gf;FDOWN BOX;FCOVj;FICE;F>Bi;FOPs BOX;FKNIFE;FPOWj;FW+P;FSPOn;FRf OPs BOX;FHID&sCLOSUv;FTs;
    FDIVgAtn;FSEd;FCLIFF;FPRIVATE;FAGAg;FMOUz;FsCLOSUv;Gez;FSCHOLe;FGO;HmLOWLY;FEVsgG;FBIG;
    FWOMk;FCHILD;FROOF;FgCH;FSMdL;F.ME;FC^PSE;FSPROUT;FMOUN>g;FRIVj;FW^K;FnESELF;FTURBk;FDRY;
    FSH^T zvAD;F~TErCLIFF;FLnGmTRIDE;FTWO HkDS;FSHOOT;FBOW;FSNOUT;FBRISTi;FSTEP;F<eT;GdBjD;FDO^;
    FHkD;FBRkCH;F+P;FSCRIPT;FDIPPj;FAXE;FSQUeE;FNOT;FSUN;GAY;FMOn;FTvE;F.CK;FSTOP;FDEAz;FWEAPn;
    FDO NOT;FCOMPeE;FFUR;FCLk;FSTEAM;FWATj;FFIv;FC.W;FFAzj;F% X;FHdF TvyTRUNK;FSLICE;FFkG;FCOW;
    FDOG;FPROFOUND;FJADE;FMELn;Fti;FSWEET;FLIFE;FUSE;FFIELD;FBOLT OF CLOz;F=CKNESS;F~TErTsT;
    FWHITE;FSKg;FDISH;FEYE;FSPEe;FeROW;FSTnE;GPIRIT;FT+CK;FG+g;FCAVE;FSTkD;FBAMBOO;FRICE;F=LK;
    FJe;FNET;FS<EP;FFEAzj;FOLD;FkD;FPLOW;FEe;FBRUSH;FMEAT;GgISTj;FSELF;FeRIVE;FM^Te;FTnGUE;
    FOPPOSE;FBOAT;FSTOPPgG;FCOL^;FG+SS;FtGj;FgSECT;FBLOOD;FWdK sCLOSUv;FCLOzES;FWEST;FSEE;FH^N;
    FSPEECH;FVdiY;FBEk;FPIG;FBADGj;FS<LL;FvD;GUN;FFOOT;FBODY;FCeT;FBITTj;FM^NgG;FWdK;FCITY;FWgE;
    FDISTgGUISH;FVIL.GE;FGOLD;FLnG;FGATE;FMOUND;FS.VE;GH^T >IirBIRD;F+g;FBLUE;FWRnG;FFACE;FiAzj;
    FTkNEriAzj;FiEK;FSOUND;FiAF;FWgD;FFLY;FEAT;F<AD;FF+GRkT;FH^SE;FBnE;FTdL;FwIR;FFf;
    FSACRIFICId WgE;FCAULDRn;FGHOST;FFISH;FBIRD;FSdT;FDEj;FW<AT;F<MP;FYELLOW;FMILiT;FB.CK;
    FEMBROIDjY;FFROG;FTRIPOD;FDRUM;F+T;FNOSE;FEVs;FTOOz;FD+Gn;FTURTi;FFLUTE;@2FF0;
    0IDEOG+PHIC DESCRIPtn CHeACTj * TO Rf;YABOVyTO !;Y* TO MIDDi?Rf;YABOVyTO MIDDi?!;
    YFULLmURROUND;YSURROUNrFROMo;ZURROUNrFROM !;ZURROUNrFROM *;ZURROUNrFROM UPPj *;
    ZURROUNrFROM UPPj Rf;ZURROUNrFROM LOWj *;YOVj.ID;@3000;CSPACE;CCOMMA;CFULLmTOP;0DITTO MeK;
    0JAPkESygDUSTRIdmTkDeD|;0IDEOG+PHIC ITjAtn MeK;CCLOS&MeK;CNUMBj ZjO;0* kGi B+CKET;
    0Rf kGi B+CKET;0* % kGi B+CKET;0Rf % kGi B+CKET;0* C^Nj B+CKET;0Rf C^Nj B+CKET;
    0* WHITyC^Nj B+CKET;0Rf WHITyC^Nj B+CKET;0* B.CK iNtCULe B+CKET;0Rf B.CK iNtCULe B+CKET;
    0POSTd MeK;0GE> MeK;0* T^TOISEm<LL B+CKET;0Rf T^TOISEm<LL B+CKET;0* WHITyiNtCULe B+CKET;
    0Rf WHITyiNtCULe B+CKET;0* WHITyT^TOISEm<LL B+CKET;0Rf WHITyT^TOISEm<LL B+CKET;
    0* WHITEmQUeyB+CKET;0Rf WHITEmQUeyB+CKET;0WAVyDASH;0vVjSEr% PRIMyQUO>tn MeK;
    0% PRIMyQUO>tn MeK;0LOW % PRIMyQUO>tn MeK;0POSTd MeK FACE;0HkGZHOU NUMjd nE;HTWO;IHvE;HFOUR;
    IIVE;H=X;IEVs;HEf;HNgE;0IDEOG+PHIC iVEL TnyMeK;CRIS&TnyMeK;CDEPeT&TnyMeK;CsTj&TnyMeK;
    0HkGULmgGi ~ TnyMeK;7% ~ TnyMeK;0WAVY DASH;0VjtCd KkA vPEAT MeK;LWIz VOICEDmOUNrMeK;
    LMeK UPPj HdF;LWIz VOICEDmOUNrMeK UPPj HdF;LMeK LOWj HdF;0_irPOSTd MeK;
    0IDEOG+PHIC TEiG+PH LgyFEEDmEPeAT^|;0HkGZHOU NUMjd Ts;IWsTY;IHIRTY;
    0VjtCd IDEOG+PHIC ITjAtn MeK;0MASU MeK;0PeT dTjNAtn MeK;0IDEOG+PHIC VeIAtn gDICAT^;
    CHdF FILLmPACE;@3041;0HI+GkA iTTjmMdL A;GA;GSMdL I;GI;GSMdL U;GU;GSMdL E;GE;GSMdL O;GO;GKA;
    GGA;GKI;GGI;GKU;GGU;GKE;GGE;GKO;GGO;GSA;GZA;G=;GZI;GSU;GZU;GSE;GZE;GSO;GZO;G>;GDA;Gt;GDI;
    GSMdL TU;GTU;GDU;GTE;GDE;GTO;GDO;GNA;HI;HU;HE;HO;Gw;GBA;GPA;GHI;GBI;GPI;GHU;GBU;GPU;G<;GBE;
    GPE;GHO;GBO;GPO;GMA;HI;HU;HE;HO;GSMdL YA;GYA;GSMdL YU;GYU;GSMdL YO;GYO;G+;HI;HU;HE;HO",
   "GSMdL WA;GWA;HI;HE;HO;GN;GVU;GSMdL KA;NE;@3099;0COMBg&KA>KkA-HI+GkA VOICEDmOUNrMeK;
    SSEMI-VOICEDmOUNrMeK;0KA>KkA-HI+GkA VOICEDmOUNrMeK;ISEMI-VOICEDmOUNrMeK;0HI+GkA ITjAtn MeK;
    9VOICErITjAtn MeK;9DIG+PH Y^I;0KA>KkA-HI+GkA % HYPHs;8 iTTjmMdL A;GA;GSMdL I;GI;GSMdL U;GU;
    GSMdL E;GE;GSMdL O;GO;GKA;GGA;GKI;GGI;GKU;GGU;GKE;GGE;GKO;GGO;GSA;GZA;G=;GZI;GSU;GZU;GSE;
    GZE;GSO;GZO;G>;GDA;Gt;GDI;GSMdL TU;GTU;GDU;GTE;GDE;GTO;GDO;GNA;HI;HU;HE;HO;Gw;GBA;GPA;GHI;
    GBI;GPI;GHU;GBU;GPU;G<;GBE;GPE;GHO;GBO;GPO;GMA;HI;HU;HE;HO;GSMdL YA;GYA;GSMdL YU;GYU;
    GSMdL YO;GYO;G+;HI;HU;HE;HO;GSMdL WA;GWA;HI;HE;HO;GN;GVU;GSMdL KA;NE;GVA;HI;HE;HO;9MIDDi ~;
    8-HI+GkA PROLnGEDmOUNrMeK;8 ITjAtn MeK;9VOICErITjAtn MeK;9DIG+PH KOTO;@3105;0BOPOMOFO ,B;GP;
    GM;GF;GD;GT;GN;GL;GG;GK;GH;GJ;GQ;GX;GZH;GCH;GSH;GR;GZ;GC;GS;GA;GO;GE;HH;GAI;GEI;GAU;GOU;Gk;
    Gs;GkG;GsG;HR;GI;GU;GIU;GV;GNG;GGN;GIH;GOb~o;GNN;@3131;0HkGUaKIYEOK;ESSkGKIYEOK;EKIYEOK-=OS;
    ENIEUN;J-CIEUC;KHIEUH;EtKEUT;ESSkGtKEUT;ERIEUL;J-KIYEOK;KMIEUM;KPIEUP;K=OS;KzIEUz;KPHIEUPH;
    KHIEUH;EMIEUM;EPIEUP;ESSkGPIEUP;EPIEUP-=OS;E=OS;FSkG=OS;EIEUNG;ECIEUC;ESSkGCIEUC;ECHIEUCH;
    EKHIEUKH;EzIEUz;EPHIEUPH;EHIEUH;EA;FE;EYA;GE;EEO;EE;EYEO;FE;EO;EWA;GE;EOE;EYO;EU;EWEO;FE;FI;
    EYU;EEU;EYI;EI;7FILiR;7iTTjmSkGNIEUN;ENIEUN-tKEUT;K=OS;KPk=OS;ERIEUL-KIYEOK-=OS;KtKEUT;
    KPIEUP-=OS;Lk=OS;KYE^gHIEUH;EMIEUM-PIEUP;K=OS;KPk=OS;EKAPYEOUNMIEUM;EPIEUP-KIYEOK;KtKEUT;
    K=OS-KIYEOK;PtKEUT;KCIEUC;KzIEUz;EKAPYEOUNPIEUP;MSSkGPIEUP;E=OS-KIYEOK;JNIEUN;JtKEUT;JPIEUP;
    JCIEUC;EPk=OS;ESSkGIEUNG;EYE=EUNG;M-=OS;NPk=OS;EKAPYEOUNPHIEUPH;ESSkGHIEUH;EYE^gHIEUH;FO-YA;
    JE;HI;FU-YEO;IE;HI;EeAEA;JE;@3190;0IDEOG+PHIC kNO>tn LgK&MeK;NvVjSyMeK;NnyMeK;NTWO MeK;
    OHvyMeK;NFOUR MeK;NTOP MeK;NMIDDi MeK;NBOTTOM MeK;NFIRST MeK;NSECnrMeK;NzIRrMeK;NFOURz MeK;
    N<AVs MeK;NEez MeK;NMk MeK;0BOPOMOFO ,BU;GZI;GJI;GGU;GEE;HNN;GOO;HNN;GIR;GkN;GgN;GUNN;GIM;
    GNGG;GAgN;HUNN;HM;GOM;HNG;GgNN;9FgAaP;MT;MK;MH;9,GH;GLH;GZY;9FgAaG;9,GW;GKW;GOE;GAH;
    0CJKmTROKyT;BWG;BXG;BBXG;BSW;BHZZ;DG;CP;CZWG;BSZWG;BHZT;DZP;CPWG;CZW;DZZ;BN;BH;BS;BP;BSP;BD;
    BHZ;CG;BSZ;CWZ;CT;CG;BPD;CZ;BTN;BSZZ;CWG;BHXWG;CZZZG;BPG;BQ;@31F0;0KA>KkA iTTjmMdL KU;M=;NU;
    MTO;MNU;Mw;NI;NU;NE;NO;MMU;M+;NI;NU;NE;NO;0PeszE=ZErHkGUL KIYEOK;LNIEUN;LtKEUT;LRIEUL;
    LMIEUM;LPIEUP;L=OS;LIEUNG;LCIEUC;MHIEUCH;LKHIEUKH;LzIEUz;LPHIEUPH;LHIEUH;LKIYEOK A;LNIEUN A;
    LtKEUT A;LRIEUL A;LMIEUM A;LPIEUP A;L=OS A;LIEUNG A;LCIEUC A;MHIEUCH A;LKHIEUKH A;LzIEUz A;
    LPHIEUPH A;LHIEUH A;LCIEUC U;EKOvk CHeACTj OJEn;W HU;@3220;EIDEOG+PH nE;OTWO;PHvE;OFOUR;
    PIVE;O=X;PEVs;OEf;ONgE;OTs;OMOn;OFIv;OWATj;POOD;OMETd;OEez;OSUN;PTOCK;OwVE;OSOCIETY;ONAME;
    OSPECId;OFgkCId;OCnG+TU.tn;O.B^;OvPvSsT;OCdL;OSTUDY;PUPjVISE;OsTjPRISE;OvSOURCE;OdLIkCE;
    OFEStVd;OvST;OSELF;OvACH;0_irIDEOG+PH QUEStn;IKgDjGeTs;ISCHOOL;IKOTO;8NUMBj Ts n B.CKmQUeE;
    GWsTY n B.CKmQUeE;GHIRTY n B.CKmQUeE;FF^TY n B.CKmQUeE;GIFTY n B.CKmQUeE;F=XTY n B.CKmQUeE;
    GEVsTY n B.CKmQUeE;FEfY n B.CKmQUeE;0PeTNjSHIPx;0_irNUMBj TWsTY nE;MTWO;NHvE;MFOUR;NIVE;M=X;
    NEVs;MEf;MNgE;GHIRTY;L nE;MTWO;NHvE;MFOUR;NIVE;8HkGUL KIYEOK;FNIEUN;FtKEUT;FRIEUL;FMIEUM;
    FPIEUP;F=OS;FIEUNG;FCIEUC;GHIEUCH;FKHIEUKH;FzIEUz;FPHIEUPH;FHIEUH;FKIYEOK A;FNIEUN A;
    FtKEUT A;FRIEUL A;FMIEUM A;FPIEUP A;F=OS A;FIEUNG A;FCIEUC A;GHIEUCH A;FKHIEUKH A;FzIEUz A;
    FPHIEUPH A;FHIEUH A;8KOvk CHeACTj CwMKO;PJUEUI;8HkGUL IEUNG U;0KOvkmTkDeD|;0_irIDEOG+PH nE;
    ITWO;JHvE;IFOUR;JIVE;I=X;JEVs;IEf;INgE;ITs;IMOn;IFIv;IWATj;JOOD;IMETd;IEez;ISUN;JTOCK;IwVE;
    ISOCIETY;INAME;ISPECId;IFgkCId;ICnG+TU.tn;I.B^;ISECvT;IMdE;IFEMdE;ISUI>Bi;IEXCELiNT;IPRgT;
    IATTstn;IITEM;IvST;ICOPY;KRvCT;IHIGH;ICsTv;ILOW;JEFT;IRf;IMEDICgE;IvLIGIn;ISTUDY;JUPjVISE;
    IsTjPRISE;IvSOURCE;IdLIkCE;INf;8NUMBj zIRTYmIX;NEVs;MEf;MNgE;FF^TY;K nE;LTWO;MHvE;LFOUR",
   "MIVE;L=X;MEVs;LEf;LNgE;GIFTY;0IDEOG+PHIC TEiG+PH| F^ JkUeY;XFEBRUeY;XMeCH;XAPRIL;XMAY;XJUNE;
    ZLY;XAUGUST;XSEPTEMBj;XOCTOBj;XNOVEMBj;XDECEMBj;0SQUeyHG;7jG;8V;0LIMITErLIABILITYx;
    0_irKA>KkA A;HI;HU;HE;HO;HKA;II;IU;IE;IO;HSA;II;IU;IE;IO;H>;II;IU;IE;IO;HNA;II;IU;IE;IO;Hw;
    II;IU;IE;IO;HMA;II;IU;IE;IO;HYA;IU;IO;H+;II;IU;IE;IO;HWA;II;IE;IO;0SQUeyjA NAMyvIWA;7APAATO;
    8RUHUA;8NPEA;8eU;7ggGU;9t;7Un;7ESUKUUDO;8EKAA;7nSU;8OMU;7KAIRI;9+TTO;A^II;7Gen;9NMA;8IGA;
    9NII;7KYURII;7GIRUDAA;7KIRO;BGU+MU;BMEET^U;BWATTO;7GU+MU;DTn;7KURUZEIRO;AOnE;8EESU;8^UNA;
    9OPO;7SAIKURU;9NtIMU;8IRgGU;8st;BO;7DAASU;8E=;8^U;7Tn;7NkO;8OTTO;7wITU;7PAASsTO;ATU;7BAejU;
    7PIASUT^U;9KURU;AO;7BIRU;7HUeADDO;9IITO;7BUSSYjU;7HURk;8EKU>eU;7PESO;9NIHI;7HjUTU;7PsSU;
    9EZI;7BEE>;7POgTO;7B^UTO;7Hn;7PnDO;7HO^U;AN;7MAIKURO;ARU;9Hw;9RUKU;9NSYn;8IKURn;9RI;BBAeU;
    8EGA;BTn;9ET^U;7YAADO;ARU;8Uk;7RITT^U;9+;8UPII;9UBURU;8EMU;9NTOGs;7WATTO;
    0IDEOG+PHIC TEiG+PH| F^ HOUR ZjO;ZUR nE;ZUR TWO;ZUR zvE;ZUR FOUR;ZUR FIVE;ZURmIX;ZURmEVs;
    ZUR Ef;ZUR NgE;ZUR Ts;ZUR EiVs;ZUR TWELVE;ZUR zIRTEs;ZUR FOURTEs;ZUR FIFTEs;ZURmIXTEs;
    ZURmEVsTEs;ZUR EfEs;ZUR NgETEs;ZUR TWsTY;ZUR TWsTY-nE;ZUR TWsTY-TWO;ZUR TWsTY-zvE;
    ZUR TWsTY-FOUR;0SQUeyHPA;7DA;7AU;7Be;7OV;7PC;7DM;9mQUeED;ACUBED;7IU;7jA NAMy<ISEI;GSYOUWA;
    G>ISYOU;GMEIZI;7C^PO+tn;7PA AMPS;7NA;7MU A;8A;7KA;8B;7MB;7GB;7Cd;7KCd;7PF;7NF;7MU F;AG;8G;
    7KG;7HZ;7KHZ;7MHZ;7GHZ;7zZ;7MU L;8L;7DL;7KL;7FM;7NM;7MU M;8M;7CM;7KM;7MMmQUeED;7CMmQUeED;
    7MmQUeED;7KMmQUeED;7MM CUBED;7CM CUBED;7M CUBED;7KM CUBED;7M OVjm;FmQUeED;7PA;7KPA;7MPA;
    7GPA;7+D;A OVjm;HmQUeED;7PS;7NS;7MUm;8S;7PV;7NV;7MU V;8V;7KV;7MV MEGA;7PW;7NW;7MU W;8W;7KW;
    7MW MEGA;7K OHM;7M OHM;7AM;7BQ;7CC;8D;8 OVj KG;8O;7DB;7GY;7w;8P;7g;7KK;8M cL;8T;7LM;8N;8OG;
    8X;7MBmMdL;8IL;8OL;7PH;8M;8PM;8R;7SR;8V;7WB;7V OVj M;7A OVj M;
    0IDEOG+PHIC TEiG+PH| F^ DAY nE;ZY TWO;ZY zvE;ZY FOUR;ZY FIVE;ZYmIX;ZYmEVs;ZY Ef;ZY NgE;
    ZY Ts;ZY EiVs;ZY TWELVE;ZY zIRTEs;ZY FOURTEs;ZY FIFTEs;ZYmIXTEs;ZYmEVsTEs;ZY EfEs;ZY NgETEs;
    ZY TWsTY;ZY TWsTY-nE;ZY TWsTY-TWO;ZY TWsTY-zvE;ZY TWsTY-FOUR;ZY TWsTY-FIVE;ZY TWsTY-=X;
    ZY TWsTY-SEVs;ZY TWsTY-Ef;ZY TWsTY-NgE;ZY zIRTY;ZY zIRTY-nE;0SQUeyGd;@4DC0;
    0<XAG+M F^ zyCvAtVy<AVs;HvCEPtVyEez;DDIFFICULTY AT zyBEGgNgG;DYOUzFUL FOLLY;DWAITgG;
    DCnFLICT;DzyeMY;DHOLD&TOGEzj;DSMdL >MgG;DTvADgG;DPEACE;DSTkDStLL;DFELLOWSHIP;DGvAT POSSES=n;
    DMODESTY;DszU=ASM;DFOLLOWgG;DW^K n zyDECAYED;DAPPROACH;DCnTEMP.tn;DBIT&zROUGH;DG+CE;
    DSPLITT&APeT;DvTURN;DgNOCsCE;DGvAT >MgG;DMOUz C^NjS;DGvAT PvPnDjkCE;DzyABYSMd WATj;
    HCLgG&FIv;DgFLUsCE;DDU+tn;DvTvAT;DGvAT POWj;DPROGvSS;DDeKs&OF zyLf;DzyFAMILY;DOPPO=tn;
    EBSTRUCtn;DDELIVjkCE;FCvASE;DgCvASE;DBvAKzROUGH;DCOM&TO MEET;DGAzj&TOGEzj;DPUSH&UPWeD;
    DOPPvS=n;DzyWELL;DvVOLUtn;DzyCAULDRn;HeOUS&zUNDj;HKEEPgGmtLL MOUN>g;DDEVELOPMsT;
    DzyMeRY&MAIDs;DABUNDkCE;DzyWkDjj;HGsTi WgD;HJOYOUS .KE;DDISPj=n;DLIMI>tn;DgNj TRUz;
    DSMdL PvPnDjkCE;DAFTj COMPitn;DBEFOv COMPitn;@A000;0YImYL.Bi IT;DX;CI;DP;DET;EX;DE;EP;CAT;
    DX;CA;DP;CUOX;DO;EP;COT;DX;CO;DP;CEX;CE;CWU;CBIT;EX;DI;EP;EET;FX;EE;FP;DAT;EX;DA;EP;DUOX;EO;
    FP;DOT;EX;DO;EP;DEX;DE;EP;DUT;EX;DU;EP;ERX;ER;DYT;EX;DY;EP;ERX;ER;CPIT;EX;DI;EP;EEX;EE;FP;
    DAT;EX;DA;EP;DUOX;EO;FP;DOT;EX;DO;EP;DUT;EX;DU;EP;ERX;ER;DYT;EX;DY;EP;ERX;ER;CBBIT;FX;EI;FP;
    FET;GX;FE;GP;EAT;FX;EA;FP;EUOX;FO;GP;EOT;FX;EO;FP;EEX;EE;FP;EUT;FX;EU;FP;FRX;FR;EYT;FX;EY;
    FP;CNBIT;FX;EI;FP;FEX;FE;GP;EAT;FX;EA;FP;EOT;FX;EO;FP;EUT;FX;EU;FP;FRX;FR;EYT;FX;EY;FP;FRX;
    FR;CHMIT;FX;EI;FP;FEX;FE;GP;EAT;FX;EA;FP;EUOX;FO;GP;EOT;FX;EO;FP;EUT;FX;EU;FP;FRX;FR;EYX;EY;
    FP;FRX;FR;CMIT;EX;DI;EP;EEX;EE;FP;DAT;EX;DA;EP;DUOT;FX;EO;FP;DOT;EX;DO;EP;DEX;DE;DUT;EX;DU",
   "EP;ERX;ER;DYT;EX;DY;EP;CFIT;EX;DI;EP;DAT;EX;DA;EP;DOX;DO;EP;DUT;EX;DU;EP;ERX;ER;DYT;EX;DY;
    EP;CVIT;EX;DI;EP;EET;FX;EE;FP;DAT;EX;DA;EP;DOT;EX;DO;EP;DEX;EP;DUT;EX;DU;EP;ERX;ER;DYT;EX;
    DY;EP;ERX;ER;CDIT;EX;DI;EP;EEX;EE;FP;DAT;EX;DA;EP;DUOX;EO;DOT;EX;DO;EP;DEX;DE;EP;DUT;EX;DU;
    EP;ERX;ER;CtT;EX;DI;EP;EEX;EE;FP;DAT;EX;DA;EP;DUOT;FX;EO;FP;DOT;EX;DO;EP;DEX;DE;EP;DUT;EX;
    DU;EP;ERX;ER;CDDIT;FX;EI;FP;FEX;FE;GP;EAT;FX;EA;FP;EUOX;FO;GP;EOT;FX;EO;FP;EEX;EE;FP;EUT;FX;
    EU;FP;FRX;FR;CNDIT;FX;EI;FP;FEX;FE;EAT;FX;EA;FP;EOT;FX;EO;FP;EEX;EE;FP;EUT;FX;EU;FP;FRX;FR;
    CHNIT;FX;EI;FP;FET;GX;FE;GP;EAT;FX;EA;FP;EUOX;FO;EOT;FX;FP;EEX;EE;FP;EUT;CNIT;EX;DI;EP;EEX;
    EE;FP;DAX;DA;EP;DUOX;EO;FP;DOT;EX;DO;EP;DEX;DE;EP;DUT;EX;DU;EP;ERX;ER;CHLIT;FX;EI;FP;FEX;FE;
    GP;EAT;FX;EA;FP;EUOX;FO;GP;EOX;EO;FP;EEX;EE;FP;EUT;FX;EU;FP;FRX;FR;EYT;FX;EY;FP;FRX;FR;CLIT;
    EX;DI;EP;EET;FX;EE;FP;DAT;EX;DA;EP;DUOT;FX;EO;FP;DOT;EX;DO;EP;DEX;DE;EP;DUT;EX;DU;EP;ERX;ER;
    DYT;EX;DY;EP;ERX;ER;CGIT;EX;DI;EP;EET;FX;EE;FP;DAT;EX;DA;EP;DUOT;FX;EO;FP;DOT;EX;DO;EP;DET;
    EX;DE;EP;DUT;EX;DU;EP;ERX;ER;CKIT;EX;DI;EP;EEX;EE;FP;DAT;EX;DA;EP;DUOX;EO;FP;DOT;EX;DO;EP;
    DET;EX;DE;EP;DUT;EX;DU;EP;ERX;ER;CGGIT;FX;EI;FEX;FE;GP;EAT;FX;EA;FP;EUOT;GX;FO;GP;EOT;FX;EO;
    FP;EET;FX;EE;FP;EUT;FX;EU;FP;FRX;FR;CMGIEX;FE;EAT;FX;EA;FP;EUOX;FO;GP;EOT;FX;EO;FP;EEX;EE;
    FP;EUT;FX;EU;FP;FRX;FR;CHXIT;FX;EI;FP;FET;GX;FE;GP;EAT;FX;EA;FP;EUOT;GX;FO;GP;EOT;FX;EO;FP;
    EEX;EE;FP;CNGIEX;FE;GP;EAT;FX;EA;FP;EUOT;GX;FO;EOT;FX;EO;FP;EEX;EE;FP;CHIT;EEX;EE;DAT;EX;DA;
    EP;DUOT;FX;EO;FP;DOT;EX;DO;EP;DEX;DE;EP;CWAT;EX;DA;EP;DUOX;EO;FP;DOX;DO;EP;DEX;DE;EP;CZIT;
    EX;DI;EP;EEX;EE;FP;DAT;EX;DA;EP;DUOX;EO;FP;DOT;EX;DO;EP;DEX;DE;EP;DUT;EX;DU;EP;ERX;ER;DYT;
    EX;DY;EP;ERX;ER;CCIT;EX;DI;EP;EET;FX;EE;FP;DAT;EX;DA;EP;DUOX;EO;FP;DOT;EX;DO;EP;DEX;DE;EP;
    DUT;EX;DU;EP;ERX;ER;DYT;EX;DY;EP;ERX;ER;CZZIT;FX;EI;FP;FET;GX;FE;GP;EAT;FX;EA;FP;EOX;EO;FP;
    EEX;EE;FP;EUX;EU;FP;FRX;FR;EYT;FX;EY;FP;FRX;FR;CNZIT;FX;EI;FP;FEX;FE;GP;EAT;FX;EA;FP;EUOX;
    FO;EOX;FP;EEX;EE;EUX;EU;FP;FRX;FR;EYT;FX;EY;FP;FRX;FR;C=T;EX;DI;EP;EEX;EE;FP;DAT;EX;DA;EP;
    DUOX;EO;FP;DOT;EX;DO;EP;DEX;DE;EP;DUT;EX;DU;EP;ERX;ER;DYT;EX;DY;EP;ERX;ER;D=T;FX;EI;FP;FEX;
    FE;GP;EAT;FX;EA;FP;EOT;FX;EO;FP;EEX;EE;FP;EUT;FX;EU;FP;EYT;FX;EY;FP;FRX;FR;CZwT;FX;EA;FP;
    EUOX;FO;GP;EOT;FX;EO;FP;EET;FX;EE;FP;EUT;FX;EU;FP;FRX;FR;EYT;FX;EY;FP;FRX;FR;CCwT;FX;EA;FP;
    EUOT;GX;FO;GP;EOT;FX;EO;FP;EET;FX;EE;FP;EUX;EU;FP;FRX;FR;EYT;FX;EY;FP;FRX;FR;CR+X;EA;EUOX;
    FO;EOT;FX;EO;FP;EET;FX;EE;FP;EUT;FX;EU;FP;FRX;FR;EYT;FX;EY;FP;FRX;FR;CN+T;FX;EA;FP;EOX;EO;
    FP;EET;FX;EE;FP;EUT;FX;EU;FP;FRX;FR;EYT;FX;EY;FP;FRX;FR;CSwT;FX;EA;FP;EUOX;FO;GP;EOT;FX;EO;
    FP;EET;FX;EE;FP;EUT;FX;EU;FP;FRX;FR;EYT;FX;EY;FP;FRX;FR;C+T;EX;DA;EP;DUOX;EO;FP;DOT;EX;DO;
    EP;DEX;DE;EP;DUT;EX;DU;EP;ERX;ER;DYT;EX;DY;EP;ERX;ER;CJIT;EX;DI;EP;EET;FX;EE;FP;DUOT;FX;EO;
    FP;DOT;EX;DO;EP;DUT;EX;DU;EP;ERX;ER;DYT;EX;DY;EP;ERX;ER;CQIT;EX;DI;EP;EET;FX;EE;FP;DUOT;FX;
    EO;FP;DOT;EX;DO;EP;DUT;EX;DU;EP;ERX;ER;DYT;EX;DY;EP;ERX;ER;CJJIT;FX;EI;FP;FET;GX;FE;GP;EUOX;
    FO;GP;EOT;FX;EO;FP;EUT;FX;EU;FP;FRX;FR;EYT;FX;EY;FP;CNJIT;FX;EI;FP;FET;GX;FE;GP;EUOX;FO;EOT;
    FX;EO;FP;EUX;EU;FP;FRX;FR;EYT;FX;EY;FP;FRX;FR;DYIT;FX;EI;FP;FET;GX;FE;GP;EUOX;FO;GP;EOT;FX;
    EO;FP;EUT;FX;EU;FP;CXIT;EX;DI;EP;EET;FX;EE;FP;DUOX;EO;DOT;EX;DO;EP;DYT;EX;DY;EP;ERX;ER;CYIT;
    EX;DI;EP;EET;FX;EE;FP;DUOT;FX;EO;FP;DOT;EX;DO;EP;DUT;EX;DU;EP;ERX;ER;DYT;EX;DY;EP;ERX;ER;
    @A490;3+DICd QOT;BLI;BKIT;BNYIP;BCYP;BS=;BGGOP;CEP;BMI;BHXIT;BLYR;BBBUT;BMOP;BYO;BPUT;BHXUO;
    B>T;BGA;BZUP;BCYT;BDDUR;BBUR;BGGUO;BNYOP;BTU;BOP;BJJUT;BZOT;BPYT;BHMO;BYIT;BVUR;BSHY;BVEP;
    BZA;BJO;BNZUP;BJJY;BGOT;BJJIE;BWO;BDU;BSHUR;BLIE;BCY;CUOP;CIP;BHXOP;BSwT;BZUR;BSHOP;BC<;
    BZZIET;BNBIE;BKE;@A4D0;0LISU ,BA;CPA;Dw;CDA;C>;Dw;CGA;CKA;Dw;CJA;CCA;Dw;CDZA;CTSA;Ew;CMA",
   "CNA;C.;CSA;CZw;DA;CNGA;Cw;CXA;CHw;CFA;CWA;CSw;CYA;CGw;CA;DE;CE;DU;CI;CO;CU;DE;DH;COE;
    CTnyMYA t;HNA PO;HMYA CYA;LBO;LNA;LJEU;5PUNCTUAtn COMMA;HFULLmTOP;0VAImYL.Bi EE;FN;D<E;DWEE;
    GN;DPEE;DB<E;EEE;DMBEE;DKPEE;DMGBEE;DGBEE;DFEE;DVEE;DTEE;E<E;DD<E;F<E;DiE;DvE;DDEE;DNDEE;
    DSEE;E<E;DZEE;E<E;DCEE;DJEE;DNJEE;DYEE;DKEE;DNGGEE;DGEE;DMEE;DNEE;EYEE;DI;EN;DHI;FN;DWI;FN;
    DPI;DBHI;EI;DMBI;DKPI;DMGBI;DGBI;DFI;DVI;Dt;EHI;DDHI;FHI;DLI;DRI;DDI;DNDI;D=;EHI;DZI;EHI;
    DCI;DJI;DNJI;DYI;DKI;DNGGI;DGI;DMI;DNI;EYI;DA;EN;DNGk;Dw;FN;DWA;FN;DPA;DBw;EA;DMBA;DKPA;GN;
    DMGBA;DGBA;DFA;DVA;D>;Ew;DDw;Fw;D.;D+;DDA;DNDA;DSA;Ew;DZA;Ew;DCA;DJA;DNJA;DYA;DKA;FN;DNGGA;
    DGA;DMA;DNA;EYA;DOO;FN;DHOO;DWOO;GN;DPOO;DBHOO;EOO;DMBOO;DKPOO;DMGBOO;DGBOO;DFOO;DVOO;DTOO;
    EHOO;DDHOO;FHOO;DLOO;DROO;DDOO;DNDOO;DSOO;EHOO;DZOO;EHOO;DCOO;DJOO;DNJOO;DYOO;DKOO;DNGGOO;
    DGOO;DMOO;DNOO;EYOO;DU;EN;DHU;FN;DWU;FN;DPU;DBHU;EU;DMBU;DKPU;DMGBU;DGBU;DFU;DVU;DTU;EHU;
    DDHU;FHU;DLU;DRU;DDU;DNDU;DSU;EHU;DZU;EHU;DCU;DJU;DNJU;DYU;DKU;DNGGU;DGU;DMU;DNU;EYU;DO;EN;
    DNGn;DHO;FN;DWO;FN;DPO;DBHO;EO;DMBO;DKPO;DMGBO;DGBO;GN;DFO;DVO;DTO;EHO;DDHO;FHO;DLO;DRO;DDO;
    DNDO;DSO;EHO;DZO;EHO;DCO;DJO;DNJO;DYO;DKO;DNGGO;DGO;DMO;DNO;EYO;DE;EN;DNGs;D<;FN;DWE;FN;DPE;
    DB<;EE;DMBE;DKPE;GN;DMGBE;DGBE;GN;DFE;DVE;DTE;E<;DD<;F<;Di;Dv;DDE;DNDE;DSE;E<;DZE;E<;DCE;
    DJE;DNJE;DYE;DKE;DNGGE;HN;DGE;FN;DME;DNE;EYE;EG;DiNGzsj;4COMMA;4FULLmTOP;4QUEStn MeK;
    4SYL.Bi NDOi FA;JKA;JSOO;6MBOL FEsG;BKEsG;BTgG;BNII;BBkG;BFAA;B>A;BDkG;COnG;BKUNG;BTnG;
    BDO-O;BJnG;4DIGIT ZjO;AnE;ATWO;BHvE;AFOUR;BIVE;A=X;BEVs;AEf;ANgE;4SYL.Bi NDOi MA;JDO;@A640;
    0CYRILLIC caZEMLYA;9qZEMLYA;9caDZELO;9qDZELO;9cavVjSErDZE;9qvVjSErDZE;9caIO>;9qIO>;9caDJjV;
    9qDJjV;9caMnOG+PH UK;9qMnOG+PH UK;9caBROArOMEGA;9qBROArOMEGA;9caNEUTRd Yj;9qNEUTRd Yj;
    9caYjUbBACK Yj;9qYjUbBACK Yj;9caIOtFIErYAT;9qIOtFIErYAT;9cavVjSErYU;9qvVjSErYU;9caIOtFIErA;
    9qIOtFIErA;9caCLOSErLITTi YUS;9qCLOSErLITTi YUS;9caBiNDErYUS;9qBiNDErYUS;
    9caIOtFIErCLOSErLITTi YUS;9qIOtFIErCLOSErLITTi YUS;9caYN;9qYN;9cavVjSErTSE;9qvVjSErTSE;
    9caSOFT DE;9qSOFT DE;9caSOFT EL;9qSOFT EL;9caSOFT EM;9qSOFT EM;9caMnOCULe O;9qMnOCULe O;
    9caBgOCULe O;9qBgOCULe O;9ca% MnOCULe O;9q% MnOCULe O;9,MULtOCULe O;1OMBg&CYRILLIC VZMET;
    JTs MILLInSx;JHUNDvrMILLInSx;JzOUSkrMILLInSx;0S.VnIC ASTjISK;0COMBg&CYRILLIC ,UK+gIk IE;QI;
    QYI;QU;QHeDx;QYjU;QSOFTx;QOMEGA;JKAVYKA;JPAYjOK;1YRILLIC KAVYKA;9PAYjOK;9caDWE;9qDWE;
    9caDZWE;9qDZWE;9caZHWE;9qZHWE;9caCC<;9qCC<;9caDZZE;9qDZZE;9caTEbMIDDi HOOK;9qTEbMIDDi HOOK;
    9caTWE;9qTWE;9caTSWE;9qTSWE;9caTSSE;9qTSSE;9caTC<;9qTC<;9caHWE;9qHWE;9caSHWE;9qSHWE;9ca% O;
    9q% O;9caCROSSErO;9qCROSSErO;0MODIFIj ,CYRILLIC HeDx;PSOFTx;0COMBg&CYRILLIC ,EF;QIOtFIErE;
    0BAMUM ,A;DKA;DU;DKU;DEE;DvE;D>E;DO;DNYI;DI;D.;DPA;DRII;FEE;DiEEE;DMEEEE;D>A;DNDAA;EJAEM;DM;
    DSUU;DMU;DSHII;EI;E<UX;EEUX;DKYEE;EET;DNUAE;EU;EJUAE;DYOQ;DSHU;DYUQ;EA;DNSw;DKEUX;DPEUX;
    DNJEE;ETEE;DPUE;DWUE;DPEE;DFEE;DRU;DLU;DMI;DNI;DvUX;EAE;DKs;DNGKWAs;FGA;FA;DSHO;DPUAE;DFU;
    EOM;DWA;DNA;DLI;DPI;DLOQ;DKO;DMBs;DRs;DMs;EA;Dt;DKI;DMO;EBAA;DTET;DKPA;DTs;DNTUU;DSAMBA;
    DFAAMAE;DKOVUU;FGHOM;6COMBg&MeK KOQNDn;LTUKWstS;6NJAEMLI;6FULLmTOP;6COLn;8MMA;6SEMICOLn;
    6QUEStn MeK;@A700;0MODIFIj ,CHgESyTnyYg PgG;UkG PgG;UgmHkG;UkGmHkG;Ug QU;UkG QU;Ug RU;
    UkG RU;GEXT+-HIGH ~TErTnyBe;GHIGH ~TErTnyBe;GMIr~TErTnyBe;GLOW ~TErTnyBe;
    GEXT+-LOW ~TErTnyBe;MHIGH ~TEr*-STEM TnyBe;GHIGH ~TEr*-STEM TnyBe;GMIr~TEr*-STEM TnyBe;
    GLOW ~TEr*-STEM TnyBe;GEXT+-LOW ~TEr*-STEM TnyBe;MHIGH *-STEM TnyBe;GHIGH *-STEM TnyBe;
    GMIr*-STEM TnyBe;GLOW *-STEM TnyBe;GEXT+-LOW *-STEM TnyBe;G~ VjtCd Be;KS.SH;KH^IZnTd Be;
    GLOWj Rf C^Nj kGi;G+ISErUPl;NDOWNl;NEXC.MAtn MeK;NgVjTErEXC.MAtn MeK",
   "GLOW gVjTErEXC.MAtn MeK;GSTvSS?HIGH TnE;RLOW TnE;0.Tg caEGYPTOLOGICd dEF;6qEGYPTOLOGICd dEF;
    6caEGYPTOLOGICd Ag;6qEGYPTOLOGICd Ag;6caHsG;6qHsG;6caTZ;6qTZ;6caTv=LLO;6qTv=LLO;
    6caCUATRILLO;6qCUATRILLO;6caCUATRILLObCOMMA;6qCUATRILLObCOMMA;6iTTjmMdL cL F;RS;6caAA;6qAA;
    6caAO;6qAO;6caAU;6qAU;6caAV;6qAV;6caAVbH^IZnTd Be;6qAVbH^IZnTd Be;6caAY;6qAY;6cavVjSErCb~;
    6qvVjSErCb~;6caKbSTROKE;6qKbSTROKE;6caKbDIAGndmTROKE;6qKbDIAGndmTROKE;
    6caKbSTROKykrDIAGndmTROKE;6qKbSTROKykrDIAGndmTROKE;6caBROKs L;6qBROKs L;6caLbHIGHmTROKE;
    6qLbHIGHmTROKE;6caObLnGmTROKyOVj.Y;6qObLnGmTROKyOVj.Y;6caObLOOP;6qObLOOP;6caOO;6qOO;
    6caPbSTROKyzROUGH DESCsDj;6qPbSTROKyzROUGH DESCsDj;6caPbFLOURISH;6qPbFLOURISH;
    6caPbSQUIRvL >IL;6qPbSQUIRvL >IL;6caQbSTROKyzROUGH DESCsDj;6qQbSTROKyzROUGH DESCsDj;
    6caQbDIAGndmTROKE;6qQbDIAGndmTROKE;6caR ROTUNDA;6qR ROTUNDA;6caRUM ROTUNDA;6qRUM ROTUNDA;
    6caVbDIAGndmTROKE;6qVbDIAGndmTROKE;6caVY;6qVY;6caVI=GOzIC Z;6qVI=GOzIC Z;6caz^NbSTROKE;
    6qz^NbSTROKE;6caz^NbSTROKyzROUGH DESCsDj;6qz^NbSTROKyzROUGH DESCsDj;6caVsD;6qVsD;6caET;6qET;
    6caIS;6qIS;6caCn;6qCn;0MODIFIj ,US;0.TgmMdaDUM;JLUM;JMUM;JNUM;JRUM;6iTTjmMdL cL RUM;6qTUM;
    JUM;6cagSULe D;6qgSULe D;6cagSULe F;6qgSULe F;6cagSULe G;LTURNErgSULe G;6qTURNErgSULe G;
    6caTURNErL;6qTURNErL;6cagSULe R;6qgSULe R;6cagSULem;6qgSULem;6cagSULe T;6qgSULe T;
    0MODIFIj ,LOW _UMFiX ACCsT;GCOLn;GSH^T EQUdSx;0.Tg caSdtLLO;6qSdtLLO;6caTURNErH;
    6qLbvTROFiX HOOK?BELT;6iTTjmgOLOGICd ~;6caNbDESCsDj;6qNbDESCsDj;6caCbBe;6qCbBe;QPdATd HOOK;
    JHbPdATd HOOK;6caBbFLOURISH;6qBbFLOURISH;6caFbSTROKE;6qFbSTROKE;6caVO.PUK AE;6qVO.PUK AE;
    6caVO.PUK OE;6qVO.PUK OE;6caVO.PUK UE;6qVO.PUK UE;6caGbOBLIQUEmTROKE;6qGbOBLIQUEmTROKE;
    6caKbOBLIQUEmTROKE;6qKbOBLIQUEmTROKE;6caNbOBLIQUEmTROKE;6qNbOBLIQUEmTROKE;
    6caRbOBLIQUEmTROKE;6qRbOBLIQUEmTROKE;6caSbOBLIQUEmTROKE;6qSbOBLIQUEmTROKE;6caHbHOOK;
    LvVjSErOPs E;LSCRIPT G;LLbBELT;LSMdL cL I;6iTTjmMdL cL Q;6caTURNErK;ST;LJbCROSSED->IL;LCHI;
    LBE>;6qBE>;6caOMEGA;6qOMEGA;6caUbSTROKE;6qUbSTROKE;6caGLOTTd A;6qGLOTTd A;6caGLOTTd I;
    6qGLOTTd I;6caGLOTTd U;6qGLOTTd U;6caOLrPOLISH O;6qOLrPOLISH O;6cakGLICkA W;6qkGLICkA W;
    6caCbPdATd HOOK;LSbHOOK;LZbPdATd HOOK;LDbSH^TmTROKyOVj.Y;6qDbSH^TmTROKyOVj.Y;
    6caSbSH^TmTROKyOVj.Y;6qSbSH^TmTROKyOVj.Y;@A7D0;6caCLOSErgSULe G;6qCLOSErgSULe G;@A7D3;
    J% z^N;@A7D5;QWYNN;6caMIDDimCOTSm;6qMIDDimCOTSm;6ca=GMOIDm;6q=GMOIDm;@A7F2;0MODIFIj ,cL C;
    OF;OQ;0.Tg cavVjSErHdF H;6qvVjSErHdF H;6EPIG+PHIC iTTjmIDEWAYS I;0MODIFIj ,cL HbSTROKE;
    GSMdL LIGATUv OE;0.Tg iTTjmMdL cL TURNErM;6EPIG+PHIC ,vVjSErF;XP;OgVjTErM;P LnGA;OeCwIC M;
    0SYLOt NAGRI ,A;KI;D=GN DVISVeA;D,U;KE;KO;D=GN wSk>;D,KO;LHO;KGO;LHO;D=GN kUSVeA;D,CO;LHO;
    KJO;LHO;KTTO;MHO;KDDO;MHO;KTO;LHO;KDO;LHO;KNO;KPO;LHO;KBO;LHO;KMO;KRO;KLO;KRRO;KSO;KHO;
    DVOWELx A;OI;OU;OE;OOO;DPOETRY MeK-1;P2;P3;P4;D=GN dTjNATywSk>;@A830;
    0N^z gDIC F+Ctn nyQUeTj;PHdF;LzvyQUeTjS;LnEmIXTEsz;PEfH;LzvEmIXTEszS;CQUeTj MeK;
    CP.CEHOLDj MeK;CRUPEyMeK;CQUktTY MeK;@A840;0PwGS-PA ,KA;Hw;GGA;GNGA;GCA;Hw;GJA;GNYA;G>;Hw;
    GDA;GNA;GPA;Hw;GBA;GMA;GTSA;Iw;GDZA;GWA;GZw;HA;GSMdL A;GYA;G+;G.;GSw;HA;Gw;GA;GI;GU;GE;GO;
    GQA;GXA;GFA;GGGA;GEE;9SUBJOgEr,WA;QYA;9,T>;Iw;GDDA;GNNA;GdTjNATyYA;GVOICEiSSmw;Lrw;
    GASPI+TErFA;9SUBJOgEr,+;BPjFIXEr,+;9,CkD+BgDU;9SgGi <ArMeK;9% <ArMeK;9MeKmwD;E%mwD;@A880;
    0SAU+SHT+x kUSVeA;GVISeGA;B,A;JA;II;JI;IU;JU;IVOCdIC R;RR;QL;RL;IE;JE;IAI;IO;JO;IAU;IKA;Jw;
    IGA;Jw;INGA;ICA;Jw;IJA;Jw;INYA;IT>;Kw;IDDA;Kw;INNA;I>;Jw;IDA;Jw;INA;IPA;Jw;IBA;Jw;IMA;IYA;
    I+;I.;IVA;ISw;JSA;JA;Iw;IL.;BCnSnkTx weU;BVOWELx AA;MI;NI;MU;NU;MVOCdIC R;VR;UL;VL;ME;NE",
   "MAI;MO;NO;MAU;B=GN VI+MA;GCkD+BgDU;@A8CE;BDkDA;COUBi DkDA;CIGIT ZjO;HnE;HTWO;IHvE;HFOUR;
    IIVE;H=X;IEVs;HEf;HNgE;@A8E0;0COMBg&DEVkAGeI DIGIT ZjO;RnE;RTWO;SHvE;RFOUR;SIVE;R=X;SEVs;
    REf;RNgE;L,A;SU;SKA;SNA;SPA;S+;SVI;L=GN AVAG+w;0DEVkAGeIxmPAC&CkD+BgDU;GCkD+BgDU VI+MA;
    G% CkD+BgDU VI+MA;GCkD+BgDU TWO;THvE;SAVAG+w;GPUSHPIKA;BGAP FILiR;BCeET;B<ADSTROKE;
    B=GNmIDDwM;BJAg OM;B,AY;BVOWELx AY;0KAYAH LI DIGIT ZjO;FnE;FTWO;GHvE;FFOUR;GIVE;F=X;GEVs;
    FEf;FNgE;9,KA;Hw;GGA;GNGA;GSA;Hw;GZA;GNYA;G>;GH>;GNA;GPA;Hw;GMA;GDA;GBA;G+;GYA;G.;GWA;GTw;
    Gw;GVA;GCA;GA;GOE;GI;GOO;9VOWEL UE;FE;FU;FEE;FO;9TnyPLOPHU;ECdYA;J PLOPHU;9=GN CWI;ESHYA;
    0vJkG ,KA;EGA;ENGA;E>;EDA;ENA;EPA;EBA;EMA;ECA;EJA;ENYA;ESA;E+;E.;EYA;EWA;Ew;EMBA;ENGGA;FDA;
    FYJA;EA;7VOWELx I;IU;IE;IAI;IO;IAU;IEU;JA;7CnSnkTx NG;MN;MR;MH;7VI+MA;@A95F;7SECtn MeK;
    0HkGUL CHOSEnG tKEUT-MIEUM;NPIEUP;N=OS;NCIEUC;GRIEUL-KIYEOK;MSSkGKIYEOK;MtKEUT;MSSkGtKEUT;
    MMIEUM;MPIEUP;MSSkGPIEUP;MKAPYEOUNPIEUP;M=OS;MCIEUC;MKHIEUKH;GMIEUM-KIYEOK;MtKEUT;M=OS;
    GPIEUP-=OS-zIEUz;MKHIEUKH;MHIEUH;GSSkG=OS-PIEUP;GIEUNG-RIEUL;MHIEUH;GSSkGCIEUC-HIEUH;LzIEUz;
    GPHIEUPH-HIEUH;GHIEUH-=OS;GSSkGYE^gHIEUH;@A980;0JAVkESEx PkYkGGA;ECECAK;E.Ye;EWIGNYk;9,A;
    GI KAWI;GI;HI;GU;GPA CjEK;GNGA iiT;P +SWADI;GE;GAI;GO;GKA;ImASAK;JMURDA;GGA;I MURDA;GNGA;
    GCA;I MURDA;GJA;GNYA MURDA;GJA MAwPRkA;GNYA;GT>;J MAwPRkA;GDDA;J MAwPRkA;GNA MURDA;G>;
    I MURDA;GDA;I MAwPRkA;GNA;GPA;I MURDA;GBA;I MURDA;GMA;GYA;G+;I AGUNG;G.;GWA;GSA MURDA;
    KAwPRkA;HA;Gw;9=GN CECAK TELU;9VOWELx TeUNG;LOLnG;KWULU;O MELIK;KSUKU;O MsDUT;KTdgG;
    KDIRGA MUv;KPEPET;9CnSnkTx KjET;OPsGKd;OCAK+;9PkGKn;9* RjsGGk;9Rf RjsGGk;9PADA kDAP;EMADYA;
    ELUHUR;EWgDU;EPkGKAT;ELgGSA;FUNG=;EADEG;I ADEG;EPISEiH;9TURNErPADA PISEiH;@A9CF;9PkGRkGKEP;
    9DIGIT ZjO;FnE;FTWO;GHvE;FFOUR;GIVE;F=X;GEVs;FEf;FNgE;@A9DE;9PADA tR> TUMETES;EISs-ISs;
    0MYkMe iTTjmHk Gw;KCw;KJw;KNNA;KBw;8=GNmHkmAW;8MODIFIj iTTjmHk vDUPLICAtn;8,>I .&NYA;PFA;
    PGA;Qw;PJA;Qw;PDDA;Rw;PNNA;8>I .&DIGIT ZjO;OnE;OTWO;PHvE;OFOUR;PIVE;O=X;PEVs;OEf;ONgE;
    8,>I .&L.;PDA;Qw;PBA;Qw;@AA00;0CwM ,A;CI;CU;CE;CAI;CO;CKA;Dw;CGA;Dw;CNGUE;EA;CCw;Ew;CJA;Dw;
    CNHUE;EA;EJA;C>;Dw;CDA;Dw;CNUE;DA;CDDA;CPA;DPA;Dw;CBA;Dw;CMUE;DA;CBBA;CYA;C+;C.;CVA;CSSA;DA;
    Cw;5VOWELx AA;GI;HI;GEI;GU;GOE;GO;GAI;HU;GUE;5CnSnkTx YA;K+;K.;KWA;@AA40;5,Fgd K;IG;ING;
    5CnSnkTx Fgd NG;5,Fgd CH;IT;IN;IP;IY;IR;IL;ISS;5CnSnkTx Fgd M;QH;@AA50;5DIGIT ZjO;BnE;BTWO;
    CHvE;BFOUR;CIVE;B=X;CEVs;BEf;BNgE;@AA5C;5PUNCTUAtnmPIRd;HDkDA;IOUBi DkDA;HTRIPi DkDA;
    0MYkMe ,KwMt GA;MCA;Nw;MJA;Nw;MNYA;MT>;Ow;MDDA;Ow;Nw;MNA;MSA;Mw;Nw;MFA;
    8MODIFIj ,KwMt vDUPLICAtn;8,KwMt XA;MZA;M+;9OGOG+M KwMt OAY;OQN;OHM;8SYMBOL AITn EXC.MAtn;
    LnE;LTWO;8,AITn +;8=GN PAO Kes TnE;D>I .&TnE-2;S5;8iTTjmHWyPdAUNG Cw;SSw;0>I VIET ,LOW KO;
    GHIGH KO;GLOW KHO;GHIGH KHO;GLOW KHHO;GHIGH KHHO;GLOW GO;GHIGH GO;GLOW NGO;GHIGH NGO;
    GLOW CO;GHIGH CO;GLOW CHO;GHIGH CHO;GLOWmO;GHIGHmO;GLOW NYO;GHIGH NYO;GLOW DO;GHIGH DO;
    GLOW TO;GHIGH TO;GLOW zO;GHIGH zO;GLOW NO;GHIGH NO;GLOW BO;GHIGH BO;GLOW PO;GHIGH PO;
    GLOW PHO;GHIGH PHO;GLOW FO;GHIGH FO;GLOW MO;GHIGH MO;GLOW YO;GHIGH YO;GLOW RO;GHIGH RO;
    GLOW LO;GHIGH LO;GLOW VO;GHIGH VO;GLOW HO;GHIGH HO;GLOW O;GHIGH O;9MAI KkG;9VOWEL AA;FI;FUE;
    FU;FE;FO;9MAI KHIT;9VOWEL IA;FUEA;GA;FAUE;GY;GN;GM;9TnyMAI EK;INUsG;IzO;ISnG;@AADB;
    9SYMBOL Kn;GNUsG;GSAM;GHO HOI;GKOI KOI;0MEETEI MAYEK ,E;KO;KCw;KNYA;KT>;Mw;KDDA;Mw;KNNA;KSw;
    LSA;DVOWELx II;OUU;OAAI;PU;PAU;DC<IKHk;DAHkG KHUDAM;ENJI;DSYL.Bi vPEttn MeK;DW^rvPEttn MeK;
    DVOWELx VISeGA;EI+MA;@AB01;0EzIOPICmYL.Bi TzU;LI;LAA;LEE;LE;LO;@AB09;IDDHU;LI;LAA;LEE;LE;LO;
    @AB11;JZU;KI;KAA;KEE;KE;KO;@AB20;ICCHw;MU;MI;MAA;MEE;ME;MO;@AB28;IBBA;KU;KI;KAA;KEE;KE;KO",
   "@AB30;0.TgmMdaBevrdPw;JA vVjSED-SCHWA;JB.CK,E;KevrE;JEbFLOURISH;JiNIS F;
    JSCRIPT GbCROSSED->IL;JLbgVjTEr.ZYm;Q% MIDDi tLDE;QMIDDi RgG;JMbCROSSED->IL;JNbCROSSED->IL;
    JsGbCROSSED->IL;JB.CK,O;WbSTROKE;JOPs ObSTROKE;JgVjTErOE;JTURNErOEbSTROKE;YH^IZnTdmTROKE;
    R OPs-O;YbSTROKE;JStRRUP R;6iTTjmMdL cL RbRf iG;6qR WIzOUT HkDi;J% R;JRbCROSSED->IL;
    J% RbCROSSED->IL;JSCRIPT R;RbRgG;JBASELgyESH;JUbSH^T Rf iG;LBebSH^T Rf iG;KI;JTURNErUI;
    JUb* HOOK;JCHI;MbLOW Rf RgG;W*mjIF;JXbLOW Rf RgG;SNG * iG;Z iG?LOW Rf RgG;Z iGbSjIF;
    JYbSH^T Rf iG;0MODIFIj BvVEbgVjTErBvVE;9iTTjmMdL HsG;MLbgVjTEr.ZYm;TMIDDi tLDE;MUb* HOOK;
    0.TgmMdaSAKw YAT;JIOtFIErE;JOPs OE;JUO;JgVjTErdPw;0GvEK iTTjmMdL cL OMEGA;
    0.TgmMdaDZ DIG+PHbvTROFiX HOOK;JTS DIG+PHbvTROFiX HOOK;KURNErRbMIDDi tLDE;
    0MODIFIj iTTjmMdL TURNErW;G* >CK;GRf >CK;@AB70;0CHjOKEEmMdaA;ME;MI;MO;MU;MV;MGA;MKA;MGE;NI;
    NO;NU;NV;Mw;NE;NI;NO;NU;NV;M.;NE;NI;NO;NU;NV;MMA;NE;NI;NO;NU;MNA;MHNA;MNAH;NE;NI;NO;NU;NV;
    MQUA;OE;OI;OO;OU;OV;MSA;MS;NE;NI;NO;NU;NV;MDA;M>;MDE;MTE;MDI;Mt;MDO;NU;NV;N.;MT.;OE;OI;OO;
    OU;OV;NSA;OE;OI;OO;OU;OV;MWA;NE;NI;NO;NU;NV;MYA;0MEETEI MAYEK ,KOK;KSAM;K.I;KMIT;KPA;KNA;
    KCHIL;KtL;KKHOU;KNGOU;KzOU;KWAI;KYkG;KHUK;KUN;KI;KPwM;KAtYA;KGOK;KJwM;K+I;KBA;KJIL;KDIL;
    KGHOU;KDHOU;KBwM;KKOK LnSUM;K.I LnSUM;KMIT LnSUM;KPA LnSUM;KNA LnSUM;KtL LnSUM;KNGOU LnSUM;
    KI LnSUM;DVOWELx nAP;OgAP;OkAP;OYsAP;OSOUNAP;OUNAP;OC<gAP;ONUNG;DC<IK<I;DLUM IYEK;
    DAPUN IYEK;@ABF0;DDIGIT ZjO;JnE;JTWO;KHvE;JFOUR;KIVE;J=X;KEVs;JEf;JNgE;@D7B0;
    0HkGUL JUNGSEnG O-YEO;JO-I;HYO-A;LE;KEO;HU-YEO;JI-I;HYU-AE;KO;HEU-A;KEO;KE;KO;HI-YA-O;LE;
    KEO;KE;JO-I;JYO;KU;JI;HeAEA-A;NE;@D7CB;8nGSEnG NIEUN-RIEUL;NCHIEUCH;HSSkGtKEUT;S-PIEUP;
    HtKEUT-PIEUP;O=OS;S-KIYEOK;OCIEUC;PHIEUCH;OzIEUz;HRIEUL-SSkGKIYEOK;NKIYEOK-HIEUH;
    HSSkGRIEUL-KHIEUKH;HRIEUL-MIEUM-HIEUH;NPIEUP-tKEUT;TPHIEUPH;NYE=EUNG;P^gHIEUH-HIEUH;
    HKAPYEOUNRIEUL;HMIEUM-NIEUN;NSSkGNIEUN;HSSkGMIEUM;HMIEUM-PIEUP-=OS;NCIEUC;HPIEUP-tKEUT;
    NRIEUL-PHIEUPH;NMIEUM;HSSkGPIEUP;HPIEUP-=OS-tKEUT;NCIEUC;OHIEUCH;H=OS-MIEUM;MKAPYEOUNPIEUP;
    ISkG=OS-KIYEOK;RtKEUT;IIOS-Pk=OS;MCIEUC;NHIEUCH;MzIEUz;MHIEUH;HPk=OS-PIEUP;PKAPYEOUNPIEUP;
    HYE=EUNG-MIEUM;QHIEUH;HCIEUC-PIEUP;NSSkGPIEUP;HSSkGCIEUC;HPHIEUPH-=OS;PzIEUz;@FB00;
    0.TgmMdL LIGATUv FF;MI;ML;MFI;NL;LLnGm T;LST;@FB13;0eMsIkmMdL LIGATUv Ms NOW;SECH;SgI;
    OVEW NOW;OMs XEH;@FB1D;0<BvW ,YODbHIRIQ;7POgT JUDEO-SPkISH VeIKA;
    7LIGATUv YIDDISH YOrYOrPA>H;8ETTj dTjNAtVyAYg;EWIDydEF;JDdET;J<;JKAF;J.MED;JFgd MEM;JvSH;
    J>V;EdTjNAtVyPLUSx;ESHgbSHg ~;Pg ~;ODAGESH kDmHg ~;ZSg ~;EdEFbPA>H;OQAMATS;OMAPIQ;
    EBETbDAGESH;EGIMELbDAGESH;EDdETbDAGESH;E<bMAPIQ;EVAVbDAGESH;EZAYgbDAGESH;@FB38;ETETbDAGESH;
    EYODbDAGESH;EFgd KAFbDAGESH;EKAFbDAGESH;E.MEDbDAGESH;@FB3E;EMEMbDAGESH;@FB40;ENUNbDAGESH;
    ESAMEKHbDAGESH;@FB43;EFgd PEbDAGESH;EPEbDAGESH;@FB46;ETSADIbDAGESH;EQOFbDAGESH;EvSHbDAGESH;
    ESHgbDAGESH;E>VbDAGESH;EVAVbHO.M;EBETb+FE;EKAFb+FE;EPEb+FE;8IGATUv dEF .MED;
    0eABIC ,dEF WAS.p;PFgdh;EBEEHp;JFgdh;JgItdh;JMEDIdh;EPEHp;IFgdh;IgItdh;IMEDIdh;EBE<Hp;KFgdh;
    KgItdh;KMEDIdh;ETTE<Hp;LFgdh;LgItdh;LMEDIdh;FE<Hp;KFgdh;KgItdh;KMEDIdh;FTEHp;JFgdh;JgItdh;
    JMEDIdh;EVEHp;IFgdh;IgItdh;IMEDIdh;EPE<Hp;KFgdh;KgItdh;KMEDIdh;EDYEHp;JFgdh;JgItdh;JMEDIdh;
    ENYEHp;JFgdh;JgItdh;JMEDIdh;ETC<Hp;KFgdh;KgItdh;KMEDIdh;JEHp;MFgdh;MgItdh;MMEDIdh;EDDAHdp;
    LFgdh;FAHdp;KFgdh;FULp;IFgdh;FDdp;JFgdh;EJEHp;IFgdh;ERvHp;JFgdh;EKE<Hp;KFgdh;KgItdh;KMEDIdh;
    EGAFp;IFgdh;IgItdh;IMEDIdh;FUEHp;JFgdh;JgItdh;JMEDIdh;ENGOEHp;KFgdh;KgItdh;KMEDIdh;
    FOn GHUNNAp;QFgdh;ERNOnp;KFgdh;KgItdh;KMEDIdh;E<HbYEHop;XFgdh;IGOdp;NFgdh;NgItdh;NMEDIdh",
   "IDOACwSHMEEp;UFgdh;UgItdh;UMEDIdh;EYEH BevEp;PFgdh;PWIz wMZAop;Zo Fgdh;7SYMBOL ~o;I!;
    ETWO ~So;N!;FHvy~So;P!;PPOgT&DOWNuo;ZOWNu !;EFOUR ~So;O!;E% VjtCd Be !;ETWO ~S VjtCdLYo;Y!;
    ERgG;ESMdL >Ho;O!;EWAS.o;@FBD3;7,NGp;HFgdh;HgItdh;HMEDIdh;EUp;GFgdh;EOEp;HFgdh;EYUp;HFgdh;
    EUbwMZAop;EVEp;HFgdh;EKIRGHIZ OEp;PFgdh;MYUp;PFgdh;EEp;GFgdh;GgItdh;GMEDIdh;
    EUIGHUR KAZAKH KIRGHIZ dEF MAKSU+ gItdh;Z dEF MAKSU+ MEDIdh;8IGATUv YEHbwMZAobdEFp;
    ZEbdEF Fgdh;ZEbAEp;ZEbAyFgdh;ZEbWAWp;ZEbWAW Fgdh;ZEbUp;ZEbU Fgdh;ZEbOEp;ZEbOyFgdh;ZEbYUp;
    ZEbYU Fgdh;ZEbEp;ZEbyFgdh;ZEbygItdh;GUIGHUR KIRGHIZ YEHbwMZAobdEF MAKSU+p;
    ZWIz wMZAobdEF MAKSU+ Fgdh;ZWIz wMZAobdEF MAKSU+ gItdh;8ETTj Fe= YEHp;OFgdh;OgItdh;OMEDIdh;
    8IGATUv YEHbwMZAobJEEMp;ZEbwHp;ZEbMEEMp;ZEbdEF MAKSU+p;ZEbYEHp;GBEHbJEEMp;PwHp;PKwHp;PMEEMp;
    PdEF MAKSU+p;PYEHp;GTEHbJEEMp;PwHp;PKwHp;PMEEMp;PdEF MAKSU+p;PYEHp;H<HbJEEMp;QMEEMp;
    QdEF MAKSU+p;QYEHp;GJEEMbwHp;QMEEMp;GwHbJEEMp;PMEEMp;GKwHbJEEMp;QwHp;QMEEMp;GSEsbJEEMp;QwHp;
    QKwHp;QMEEMp;HADbwHp;PMEEMp;GDADbJEEMp;PwHp;PKwHp;PMEEMp;G>HbwHp;PMEEMp;GZAHbMEEMp;
    GAgbJEEMp;PMEEMp;GGwgbJEEMp;RMEEMp;GFEHbJEEMp;PwHp;PKwHp;PMEEMp;PdEF MAKSU+p;PYEHp;GQAFbwHp;
    PMEEMp;PdEF MAKSU+p;PYEHp;GKAFbdEFp;PJEEMp;PwHp;PKwHp;P.Mp;PMEEMp;PdEF MAKSU+p;PYEHp;
    G.MbJEEMp;PwHp;PKwHp;PMEEMp;PdEF MAKSU+p;PYEHp;GMEEMbJEEMp;QwHp;QKwHp;QMEEMp;QdEF MAKSU+p;
    QYEHp;GNOnbJEEMp;QwHp;QKwHp;QMEEMp;QdEF MAKSU+p;QYEHp;G<HbJEEMp;PMEEMp;PdEF MAKSU+p;PYEHp;
    GYEHbJEEMp;PwHp;PKwHp;PMEEMp;PdEF MAKSU+p;PYEHp;GzdbSUPjSCRIPT dEFp;GvHbSUPjSCRIPT dEFp;
    GdEF MAKSU+bSUPjSCRIPT dEFp;GSwDDAbDAMMATkp;SKAS+Tkp;SFATwp;SDAMMAp;SKAS+p;SSUPjSCRIPT dEFp;
    GYEHbwMZAobvH Fgdh;ZEbZAg Fgdh;ZEbMEEM Fgdh;ZEbNOn Fgdh;ZEbdEF MAKSU+ Fgdh;ZEbYEH Fgdh;
    GBEHbvH Fgdh;PZAg Fgdh;PMEEM Fgdh;PNOn Fgdh;PdEF MAKSU+ Fgdh;PYEH Fgdh;GTEHbvH Fgdh;
    PZAg Fgdh;PMEEM Fgdh;PNOn Fgdh;PdEF MAKSU+ Fgdh;PYEH Fgdh;H<HbvH Fgdh;QZAg Fgdh;QMEEM Fgdh;
    QNOn Fgdh;QdEF MAKSU+ Fgdh;QYEH Fgdh;GFEHbdEF MAKSU+ Fgdh;PYEH Fgdh;GQAFbdEF MAKSU+ Fgdh;
    PYEH Fgdh;GKAFbdEF Fgdh;P.M Fgdh;PMEEM Fgdh;PdEF MAKSU+ Fgdh;PYEH Fgdh;G.MbMEEM Fgdh;
    PdEF MAKSU+ Fgdh;PYEH Fgdh;GMEEMbdEF Fgdh;QMEEM Fgdh;GNOnbvH Fgdh;QZAg Fgdh;QMEEM Fgdh;
    QNOn Fgdh;QdEF MAKSU+ Fgdh;QYEH Fgdh;GdEF MAKSU+bSUPjSCRIPT dEF Fgdh;GYEHbvH Fgdh;PZAg Fgdh;
    PMEEM Fgdh;PNOn Fgdh;PdEF MAKSU+ Fgdh;PYEH Fgdh;PwMZAobJEEM gItdh;ZEbwH gItdh;ZEbKwH gItdh;
    ZEbMEEM gItdh;ZEb<H gItdh;GBEHbJEEM gItdh;PwH gItdh;PKwH gItdh;PMEEM gItdh;P<H gItdh;
    GTEHbJEEM gItdh;PwH gItdh;PKwH gItdh;PMEEM gItdh;P<H gItdh;H<HbMEEM gItdh;GJEEMbwH gItdh;
    QMEEM gItdh;GwHbJEEM gItdh;PMEEM gItdh;GKwHbJEEM gItdh;QMEEM gItdh;GSEsbJEEM gItdh;
    QwH gItdh;QKwH gItdh;QMEEM gItdh;HADbwH gItdh;PKwH gItdh;PMEEM gItdh;GDADbJEEM gItdh;
    PwH gItdh;PKwH gItdh;PMEEM gItdh;G>HbwH gItdh;GZAHbMEEM gItdh;GAgbJEEM gItdh;PMEEM gItdh;
    GGwgbJEEM gItdh;RMEEM gItdh;GFEHbJEEM gItdh;PwH gItdh;PKwH gItdh;PMEEM gItdh;GQAFbwH gItdh;
    PMEEM gItdh;GKAFbJEEM gItdh;PwH gItdh;PKwH gItdh;P.M gItdh;PMEEM gItdh;G.MbJEEM gItdh;
    PwH gItdh;PKwH gItdh;PMEEM gItdh;P<H gItdh;GMEEMbJEEM gItdh;QwH gItdh;QKwH gItdh;
    QMEEM gItdh;GNOnbJEEM gItdh;QwH gItdh;QKwH gItdh;QMEEM gItdh;Q<H gItdh;G<HbJEEM gItdh;
    PMEEM gItdh;PSUPjSCRIPT dEF gItdh;GYEHbJEEM gItdh;PwH gItdh;PKwH gItdh;PMEEM gItdh;
    P<H gItdh;QAMZAobMEEM MEDIdh;ZEb<H MEDIdh;GBEHbMEEM MEDIdh;P<H MEDIdh;GTEHbMEEM MEDIdh;
    P<H MEDIdh;H<HbMEEM MEDIdh;Q<H MEDIdh;GSEsbMEEM MEDIdh;Q<H MEDIdh;H<sbMEEM MEDIdh;
    R<H MEDIdh;GKAFb.M MEDIdh;PMEEM MEDIdh;G.MbMEEM MEDIdh;GNOnbMEEM MEDIdh;Q<H MEDIdh;
    GYEHbMEEM MEDIdh;P<H MEDIdh;GSwDDAbFATw MEDIdh;SDAMMA MEDIdh;SKAS+ MEDIdh;G>HbdEF MAKSU+p",
   "PYEHp;GAgbdEF MAKSU+p;PYEHp;GGwgbdEF MAKSU+p;RYEHp;GSEsbdEF MAKSU+p;QYEHp;H<sbdEF MAKSU+p;
    RYEHp;GwHbdEF MAKSU+p;PYEHp;GJEEMbdEF MAKSU+p;QYEHp;GKwHbdEF MAKSU+p;QYEHp;GSADbdEF MAKSU+p;
    PYEHp;GDADbdEF MAKSU+p;PYEHp;GS<sbJEEMp;RwHp;RKwHp;RMEEMp;RvHp;HEsbvHp;HADbvHp;GDADbvHp;
    G>HbdEF MAKSU+ Fgdh;PYEH Fgdh;GAgbdEF MAKSU+ Fgdh;PYEH Fgdh;GGwgbdEF MAKSU+ Fgdh;RYEH Fgdh;
    GSEsbdEF MAKSU+ Fgdh;QYEH Fgdh;H<sbdEF MAKSU+ Fgdh;RYEH Fgdh;GwHbdEF MAKSU+ Fgdh;PYEH Fgdh;
    GJEEMbdEF MAKSU+ Fgdh;QYEH Fgdh;GKwHbdEF MAKSU+ Fgdh;QYEH Fgdh;GSADbdEF MAKSU+ Fgdh;
    PYEH Fgdh;GDADbdEF MAKSU+ Fgdh;PYEH Fgdh;GS<sbJEEM Fgdh;RwH Fgdh;RKwH Fgdh;RMEEM Fgdh;
    RvH Fgdh;HEsbvH Fgdh;HADbvH Fgdh;GDADbvH Fgdh;GS<sbJEEM gItdh;RwH gItdh;RKwH gItdh;
    RMEEM gItdh;HEsb<H gItdh;H<sb<H gItdh;G>HbMEEM gItdh;GSEsbJEEM MEDIdh;QwH MEDIdh;
    QKwH MEDIdh;H<sbJEEM MEDIdh;RwH MEDIdh;RKwH MEDIdh;G>HbMEEM MEDIdh;GZAHbMEEM MEDIdh;
    GdEFbFATwTk Fgdh;ZISO.TEDh;0^NATy* PeszE=S;7Rf PeszE=S;0eABIC LIGATUv +HIMAHU d.AH;
    IDI d.AHU kH;WAA;WUM;YAA;XNNA;GSdLd.AHU dAYHI WA-AdIH;GdAYHI AS-SdAAM;MM AS-SdAAM;
    NAA AS-SdAAM;M AS-SdAATU WAS-SdAAM;GQUDDISAmIR+H;GSdLd.HU dAYHI WAAdI<yWA-Sd.M;
    GdAYwA AS-SdAAM;G>BAeAKA WA->AdAA;G+HIMAHUM d.AH;GTEHbJEEMbMEEM gItdh;PwHbJEEM Fgdh;
    ZEEM gItdh;YMEEM gItdh;PKwHbMEEM gItdh;PMEEMbJEEM gItdh;ZwH gItdh;ZKwH gItdh;
    GJEEMbMEEMbwH Fgdh;Z wH gItdh;GwHbMEEMbYEH Fgdh;ZdEF MAKSU+ Fgdh;GSEsbwHbJEEM gItdh;
    QJEEMbwH gItdh;Z dEF MAKSU+ Fgdh;QMEEMbwH Fgdh;Z wH gItdh;Z JEEM gItdh;Z MEEM Fgdh;
    Z MEEM gItdh;HADbwHbwH Fgdh;ZAH gItdh;PMEEMbMEEM Fgdh;H<sbwHbMEEM Fgdh;Z MEEM gItdh;
    RJEEMbYEH Fgdh;RMEEMbKwH Fgdh;ZH KwH gItdh;ZH MEEM Fgdh;ZH MEEM gItdh;
    GDADbwHbdEF MAKSU+ Fgdh;PKwHbMEEM Fgdh;ZMEEM gItdh;G>HbMEEMbwH Fgdh;ZwH gItdh;ZMEEM gItdh;
    ZYEH Fgdh;GAgbJEEMbMEEM Fgdh;PMEEMbMEEM Fgdh;ZMEEM gItdh;ZdEF MAKSU+ Fgdh;
    GGwgbMEEMbMEEM Fgdh;ZH YEH Fgdh;ZH dEF MAKSU+ Fgdh;GFEHbKwHbMEEM Fgdh;ZMEEM gItdh;
    GQAFbMEEMbwH Fgdh;ZMEEM Fgdh;G.MbwHbMEEM Fgdh;YYEH Fgdh;YdEF MAKSU+ Fgdh;PJEEMbJEEM gItdh;
    ZJEEM Fgdh;PKwHbMEEM Fgdh;ZMEEM gItdh;PMEEMbwH Fgdh;ZwH gItdh;GMEEMbwHbJEEM gItdh;
    ZMEEM gItdh;ZYEH Fgdh;QJEEMbwH gItdh;Z MEEM gItdh;QKwHbJEEM gItdh;Z MEEM gItdh;@FD92;
    QJEEMbKwH gItdh;G<HbMEEMbJEEM gItdh;ZMEEM gItdh;GNOnbwHbMEEM gItdh;ZdEF MAKSU+ Fgdh;
    QJEEMbMEEM Fgdh;Z MEEM gItdh;Z dEF MAKSU+ Fgdh;QMEEMbYEH Fgdh;Z dEF MAKSU+ Fgdh;
    GYEHbMEEMbMEEM Fgdh;ZMEEM gItdh;GBEHbKwHbYEH Fgdh;GTEHbJEEMbYEH Fgdh;ZdEF MAKSU+ Fgdh;
    PKwHbYEH Fgdh;ZdEF MAKSU+ Fgdh;PMEEMbYEH Fgdh;ZdEF MAKSU+ Fgdh;GJEEMbMEEMbYEH Fgdh;
    QwHbdEF MAKSU+ Fgdh;QMEEMbdEF MAKSU+ Fgdh;GSEsbKwHbdEF MAKSU+ Fgdh;HADbwHbYEH Fgdh;
    H<sbwHbYEH Fgdh;GDADbwHbYEH Fgdh;G.MbJEEMbYEH Fgdh;PMEEMbYEH Fgdh;GYEHbwHbYEH Fgdh;
    PJEEMbYEH Fgdh;PMEEMbYEH Fgdh;GMEEMbMEEMbYEH Fgdh;GQAFbMEEMbYEH Fgdh;GNOnbwHbYEH Fgdh;
    GQAFbMEEMbwH gItdh;G.MbwHbMEEM gItdh;GAgbMEEMbYEH Fgdh;GKAFbMEEMbYEH Fgdh;
    GNOnbJEEMbwH gItdh;GMEEMbKwHbYEH Fgdh;G.MbJEEMbMEEM gItdh;GKAFbMEEMbMEEM Fgdh;
    G.MbJEEMbMEEM Fgdh;GNOnbJEEMbwH Fgdh;GJEEMbwHbYEH Fgdh;GwHbJEEMbYEH Fgdh;
    GMEEMbJEEMbYEH Fgdh;GFEHbMEEMbYEH Fgdh;GBEHbwHbYEH Fgdh;GKAFbMEEMbMEEM gItdh;
    GAgbJEEMbMEEM gItdh;GSADbMEEMbMEEM gItdh;HEsbKwHbYEH Fgdh;GNOnbJEEMbYEH Fgdh;@FDCF;
    GSdAAMUHU dAYNAA;@FDF0;J. USErAS K^kICmTOPxp;GQdA USErAS K^kICmTOPxp;Gd.Hp;HKBep;GMOwMMADp;
    GSdAMp;G+SOULp;GdAY<p;GWASd.Mp;GSd.p;LL.HOU dAYHyWASd.M;GJd.JddOUHOU;0RIdx;
    0eABIC LIGATUv BISMIL.H e-+HMk e-+<EM;GSUBwkAHU WA >AdAA;GAZZA WA JdL;0VeIAtnmEiCT^-1;J2;J3",
   "J4;J5;J6;J7;J8;J9;J10;K1;K2;K3;K4;K5;K6;0PvSs>tnh F^ VjtCd COMMA;VIDEOG+PHIC COMMA;
    ZG+PHIC FULLmTOP;VCOLn;VSEMICOLn;VEXC.MAtn MeK;VQUEStn MeK;V* WHITyiNtCULe B+CKET;
    VRf WHITyiNtCULe B+KCET;VH^IZnTd ELLIP=S;@FE20;0COMBg&LIGATUv * HdF;JRf HdF;A% tLDy* HdF;
    NRf HdF;AMACRn * HdF;HRf HdF;ACnJOg&MACRn;ALIGATUv * HdF !;JRf HdF !;AtLDy* HdF !;GRf HdF !;
    AMACRn * HdF !;HRf HdF !;ACnJOg&MACRn !;BYRILLIC tTLO * HdF;PRf HdF;
    0PvSs>tnh F^ VjtCd TWO ~ iADj;VEM DASH;WN DASH;VLOW LgE;VWAVY LOW LgE;V* PeszE=S;
    VRf PeszE=S;V* CURLY B+CKET;VRf CURLY B+CKET;V* T^TOISEm<LL B+CKET;VRf T^TOISEm<LL B+CKET;
    V* B.CK iNtCULe B+CKET;VRf B.CK iNtCULe B+CKET;V* % kGi B+CKET;VRf % kGi B+CKET;
    V* kGi B+CKET;VRf kGi B+CKET;V* C^Nj B+CKET;VRf C^Nj B+CKET;V* WHITyC^Nj B+CKET;
    VRf WHITyC^Nj B+CKET;0SESAMy~;0WHITEmESAMy~;0PvSs>tnh F^ VjtCd *mQUeyB+CKET;VRfmQUeyB+CKET;
    0DAS<rOVjLgE;0CsTvLgyOVjLgE;0WAVY OVjLgE;0% WAVY OVjLgE;1AS<rLOW LgE;0CsTvLgyLOW LgE;
    0WAVY LOW LgE;0SMdL COMMA;6IDEOG+PHIC COMMA;6FULLmTOP;@FE54;6SEMICOLn;6COLn;6QUEStn MeK;
    6EXC.MAtn MeK;7M DASH;6* PeszE=S;6Rf PeszE=S;6* CURLY B+CKET;6Rf CURLY B+CKET;
    6* T^TOISEm<LL B+CKET;6Rf T^TOISEm<LL B+CKET;6NUMBjx;6AMPjSkD;7STjISK;6PLUSx;6HYPHs-MgUS;
    6iSS-zkx;6GvATj-zkx;6EQUdSx;@FE68;6vVjSEmOLIDUS;6DOLLex;6PjCsTx;6COMMjCId AT;@FE70;
    0eABIC FATwTkp;7>TWEELbFATwTko;7DAMMATkp;7>IL F+GMsT;7KAS+Tkp;@FE76;7FATwp;DMEDIdh;7DAMMAp;
    DMEDIdh;7KAS+p;DMEDIdh;7SwDDAp;EMEDIdh;8UKUNp;DMEDIdh;7,wMZAp;EdEFbMADDAop;Z Fgdh;OwMZAop;
    Z Fgdh;EWAWbwMZAop;ZFgdh;EdEFbwMZA !p;Z Fgdh;EYEHbwMZAop;ZFgdh;ZgItdh;ZMEDIdh;EdEFp;JFgdh;
    EBEHp;IFgdh;IgItdh;IMEDIdh;ETEH MeBU>p;QFgdh;IISO.TEDh;IFgdh;IgItdh;IMEDIdh;F<Hp;JFgdh;
    JgItdh;JMEDIdh;EJEEMp;JFgdh;JgItdh;JMEDIdh;EwHp;IFgdh;IgItdh;IMEDIdh;EKwHp;JFgdh;JgItdh;
    JMEDIdh;EDdp;IFgdh;Ezdp;JFgdh;EvHp;IFgdh;EZAgp;JFgdh;ESEsp;JFgdh;JgItdh;JMEDIdh;F<sp;KFgdh;
    KgItdh;KMEDIdh;FADp;IFgdh;IgItdh;IMEDIdh;EDADp;IFgdh;IgItdh;IMEDIdh;E>Hp;IFgdh;IgItdh;
    IMEDIdh;EZAHp;IFgdh;IgItdh;IMEDIdh;EAgp;IFgdh;IgItdh;IMEDIdh;EGwgp;KFgdh;KgItdh;KMEDIdh;
    EFEHp;IFgdh;IgItdh;IMEDIdh;EQAFp;IFgdh;IgItdh;IMEDIdh;EKAFp;IFgdh;IgItdh;IMEDIdh;E.Mp;IFgdh;
    IgItdh;IMEDIdh;EMEEMp;JFgdh;JgItdh;JMEDIdh;ENOnp;JFgdh;JgItdh;JMEDIdh;E<Hp;IFgdh;IgItdh;
    IMEDIdh;EWAWp;IFgdh;EdEF MAKSU+p;RFgdh;EYEHp;IFgdh;IgItdh;IMEDIdh;8IGATUv .MbdEFbMADDAop;
    ZMADDAo Fgdh;ZwMZAop;ZwMZAo Fgdh;ZwMZA !p;ZwMZA ! Fgdh;UISO.TEDh;UFgdh;@FEFF;
    0ZjO WIDz NO-BvAKmPACE;@FF01;0FULLWIDz EXC.MAtn MeK;AQUO>tn MeK;ANUMBjx;ADOLLex;APjCsTx;
    AAMPjSkD;BPOSTROP<;A* PeszE=S;ARf PeszE=S;AASTjISK;APLUSx;ACOMMA;AHYPHs-MgUS;AFULLmTOP;
    ASOLIDUS;ADIGIT ZjO;GnE;GTWO;HHvE;GFOUR;HIVE;G=X;HEVs;GEf;GNgE;ACOLn;ASEMICOLn;AiSS-zkx;
    AEQUdSx;AGvATj-zkx;AQUEStn MeK;ACOMMjCId AT;A.Tg caA;VB;VC;VD;VE;VF;VG;VH;VI;VJ;VK;VL;VM;VN;
    VO;VP;VQ;VR;VS;VT;VU;VV;VW;VX;VY;VZ;BEFTmQUeyB+CKET;AvVjSEmOLIDUS;BfmQUeyB+CKET;
    A_UMFiX ACCsT;ALOW LgE;AG+VyACCsT;A.TgmMdaA;TB;TC;TD;TE;TF;TG;TH;TI;TJ;TK;TL;TM;TN;TO;TP;TQ;
    TR;TS;TT;TU;TV;TW;TX;TY;TZ;BEFT CURLY B+CKET;AVjtCd LgE;ARf CURLY B+CKET;AtLDE;
    A* WHITyPeszE=S;ARf WHITyPeszE=S;0HdFWIDz IDEOG+PHIC FULLmTOP;A* C^Nj B+CKET;
    ARf C^Nj B+CKET;AIDEOG+PHIC COMMA;AKA>KkA MIDDi ~;J,WO;QSMdL A;WI;WU;WE;WO;WYA;XU;XO;WTU;
    I-HI+GkA PROLnGEDmOUNrMeK;I ,A;QI;QU;QE;QO;QKA;RI;RU;RE;RO;QSA;RI;RU;RE;RO;Q>;RI;RU;RE;RO;
    QNA;RI;RU;RE;RO;Qw;RI;RU;RE;RO;QMA;RI;RU;RE;RO;QYA;RU;RO;Q+;RI;RU;RE;RO;QWA;QN;
    JVOICEDmOUNrMeK;JSEMI-VOICEDmOUNrMeK;AHkGUL FILiR;H,KIYEOK;OSSkGKIYEOK;OKIYEOK-=OS;ONIEUN;
    T-CIEUC;UHIEUH;OtKEUT;OSSkGtKEUT;ORIEUL;T-KIYEOK;UMIEUM;UPIEUP;U=OS;UzIEUz;UPHIEUPH;UHIEUH",
   "OMIEUM;OPIEUP;OSSkGPIEUP;OPIEUP-=OS;O=OS;PSkG=OS;OIEUNG;OCIEUC;OSSkGCIEUC;OCHIEUCH;OKHIEUKH;
    OzIEUz;OPHIEUPH;OHIEUH;@FFC2;OA;PE;OYA;QE;OEO;OE;@FFCA;OYEO;PE;OO;OWA;QE;OOE;@FFD2;OYO;OU;
    OWEO;PE;PI;OYU;@FFDA;OEU;OYI;OI;@FFE0;0FULLWIDz CsTx;APOUNDx;ANOTx;AMACRn;ABROKs Be;AYsx;
    AWnx;@FFE8;0HdFWIDzhS Lf VjtCd;A*ul;AUPul;ARful;ADOWNul;AB.CKmQUeE;AWHITy_i;@FFF9;
    0gTjLgEe kNO>tn kCH^;NSEPeAT^;NTjMgAT^;0OBJECT vP.CEMsT CHeACTj;0vP.CEMsT CHeACTj;@10000;
    0LgEe BmYL.Bi B008 A;K38 E;K28 I;K61 O;K10 U;K01 DA;K45 DE;K07 DI;K14 DO;K51 DU;L7 JA;
    K46 JE;@1000D;K36 JO;K65 JU;K77 KA;K44 KE;K67 KI;K70 KO;K81 KU;L0 MA;K13 ME;K73 MI;K15 MO;
    K23 MU;K06 NA;K24 NE;K30 NI;K52 NO;L5 NU;K03 PA;K72 PE;K39 PI;K11 PO;K50 PU;K16 QA;K78 QE;
    K21 QI;K32 QO;@10028;K60 +;K27 v;K53 RI;K02 RO;K26 RU;K31mA;K09mE;K41mI;K12mO;K58mU;L9 >;
    K04 TE;K37 t;K05 TO;K69 TU;K54 WA;K75 WE;K40 WI;L2 WO;@1003C;K17 ZA;K74 ZE;@1003F;K20 ZO;
    L5 A2;K43 A3;K85 AU;K71 DWE;K90 DWO;K48 NWA;K29 PU2;K62 PTE;K76 +2;K33 +3;K68 RO2;L6 >2;
    K87 TWE;K91 TWO;@10050;BMBOL B018;J9;I22;I34;I47;J9;I56;I63;J4;I79;I82;J3;J6;J9;@10080;
    9IDEOG+M B100 Mk;L2 WOMk;L4 DEj;L5 EQUID;MF MeE;MMmTdLIn;L6F EWE;MM +M;L7Fm<-GOAT;MM <-GOAT;
    L8FmOW;MM BOe;L9F COW;MM BULL;K20 W<AT;L1 BeiY;L2 OLIVE;L3mPICE;L5 CYPjUS;9MnOG+M B127 KAPO;
    L8 KkAKO;9IDEOG+M B130 OIL;L1 WgE;L2;9MnOG+M B133 eEPA;L5 MjI;9IDEOG+M B140 BRnZE;L1 GOLD;
    L2;L5 WOOL;L6;K50;L1 H^N;L2;L3;L4;9MnOG+M B156 TURO2;9IDEOG+M B157;L8;L9 CLOz;K60;L1;
    L2 GeMsT;L3 eMOUR;L4;L5;L6;L7;L8;L9;K70;L1;L2;L3 Mnz;L4;L6 TvE;L7;L8;L9;K80;L1;L2;L3;L4;L5;
    L9;K90;L1 <LMET;J220 FOOTSTOOL;L5 BAzTUB;K30mPEe;L1l;L2;L3mW^D;L4;L6;K40 W<EirCHeIOT;
    L1 CHeIOT;L2 CHeIOT F+ME;L3 W<EL;L5;L6;9MnOG+M B247 DIPTE;9IDEOG+M B248;L9;K51;L2;L3;L4 DeT;
    L5;L6;L7;L8;L9;IVESSEL B155;Q200;S1;S2;S3;S4;S5;S6;S7;S8;S9;R10;S1;S2;S3;S4;S5;S6;S7;S8;S9;
    R21;S2;S6;S7;S8;S9;R50;Q305;@10100;0AEGEk W^DmEPeAT^ LgE;M~;7C<CK MeK;@10107;7NUMBj nE;ETWO;
    FHvE;EFOUR;FIVE;E=X;FEVs;EEf;ENgE;ETs;FWsTY;FHIRTY;EF^TY;FIFTY;E=XTY;FEVsTY;EEfY;ENgETY;
    EnyHUNDvD;ETWO HUNDvD;FHvyHUNDvD;EFOUR HUNDvD;FIVyHUNDvD;E=X HUNDvD;FEVs HUNDvD;EEf HUNDvD;
    ENgyHUNDvD;EnyzOUSkD;ETWO zOUSkD;FHvyzOUSkD;EFOUR zOUSkD;FIVyzOUSkD;E=X zOUSkD;FEVs zOUSkD;
    EEf zOUSkD;ENgyzOUSkD;ETs zOUSkD;FWsTY zOUSkD;FHIRTY zOUSkD;EF^TY zOUSkD;FIFTY zOUSkD;
    E=XTY zOUSkD;FEVsTY zOUSkD;EEfY zOUSkD;ENgETY zOUSkD;@10137;7WEf BASyUNIT;EFIRSTmUBUNIT;
    ESECnDmUBUNIT;EzIRDmUBUNIT;EFOURzmUBUNIT;7DRY MEASUv FIRSTmUBUNIT;
    7LIQUIrMEASUv FIRSTmUBUNIT;7MEASUvmECnDmUBUNIT;FzIRDmUBUNIT;0GvEK ACROPHnIC ATtC nyQUeTj;
    RHdF;RD+CHMA;NFIVE;PFTY;PVyHUNDvD;SzOUSkD;PFTY zOUSkD;PVyTdsTS;NTs TdsTS;NFIFTY TdsTS;
    NnyHUNDvrTdsTS;NFIVyHUNDvrTdsTS;NnyzOUSkrTdsTS;NFIVyzOUSkrTdsTS;SS>TjS;NTsm>TjS;NFIFTYm>TjS;
    NnyHUNDvDm>TjS;NFIVyHUNDvDm>TjS;NnyzOUSkDm>TjS;NTs zOUSkDm>TjS;NFIFTY zOUSkDm>TjS;NTs MNAS;
    HHjAEUM nyPizRn;HzESPIk nE;HHjMInIk nE;HEPIDAUvk TWO;HzESPIk TWO;HCYRsAIC TWO D+CHMAS;
    HEPIDAUvk TWO D+CHMAS;HTROEZsIk FIVE;STs;V dTjNATEh;HHjMInIk Ts;HMESSsIk Ts;HzESPIk Ts;
    RHIRTY;IROEZsIk FIFTY;X dTjNATEh;HHjMInIk FIFTY;HzESPIk FIFTY;QnyHUNDvD;QzvyHUNDvD;
    HEPIDAUvk FIVyHUNDvD;HTROEZsIk FIVyHUNDvD;I<SPIk FIVyHUNDvD;HCeYStk FIVyHUNDvD;
    HNAXIk FIVyHUNDvD;HzESPIk nyzOUSkD;QFIVyzOUSkD;HDELPHIC FIVyMNAS;HST+tk FIFTY MNAS;6nyHdFx;
    J dTjNATEh;6TWO zIRDSx;7HvyQUeTjSx;6YEex;6TdsTx;6D+CHMAx;6OBOLx;6TWO OBOLSx;7HvyOBOLSx;
    6FOUR OBOLSx;7IVyOBOLSx;6METvTESx;6KYAzOS BASEx;6LIT+x;6OUNKIAx;6XESTESx;6e>BEx;8OU+x;
    6G+MMAx;6TRYBLIn BASEx;6ZjOx;6nyQUeTjx;6SgUSOIDx;6gDICtnx;0NOMISMAx;@10190;0ROMkmEXTkSx;
    6UNCIAx;6SEMUNCIAx;8XTU.x;6DIMIDIAmEXTU.x;6=LIQUAx;6DseIUSx;6QUgeIUSx;6SESTjtUSx;6DUPnDIUSx",
   "6ASx;6CsTURIdx;0ASCIA|;@101A0;0GvEK| >U RHO;@101D0;0PwISTOS DISCx PEDESTRIk;KLUMEr<AD;
    J>TTOOEr<AD;JCAPtVE;KHILD;JWOMk;J<LMET;JGAUNTiT;JteA;JeROW;JBOW;JSHIELD;JCLUB;JMkACiS;
    LTTOCK;JSAW;JLID;JBOOMjkG;JCePsTRY PLkE;JDOLIUM;JCOMB;JSLgG;JCOLUMN;JBEEHIVE;JSHIP;JH^N;
    KIDE;JBULLS iG;JCAT;J+M;JEAGi;JDOVE;JTUNNY;JBEE;JPLkyTvE;JVgE;JPAPYRUS;JROSETTE;JLILY;
    JOX BACK;JFLUTE;JG+Tj;JST+gj;KMdL AXE;JWAVY BkD;JCOMBg&OBLIQUEmTROKE;@10280;0LYCIk ,A;EE;EB;
    FH;EG;ED;EI;EW;EZ;Ez;EJ;EK;EQ;EL;EM;EN;EMM;ENN;EU;EP;EKK;ER;ES;ET;FT;Ek;Es;EH;EX;@102A0;
    0CeIk ,A;EP2;ED;EL;EUUU;ER;ELD;EA2;EQ;EB;EM;EO;ED2;ET;ESH;G2;ES;EC-18;EU;ENN;EX;EN;ETT2;EP;
    ESS;EI;EE;EUUUU;EK;F2;END;EUU;EG;F2;EST;G2;ENG;EII;EC-39;ETT;EUUU2;ERR;EMB;G2;G3;G4;ELD2;
    EE2;EUUU3;@102E0;1OPtC EPACT zOUSkDS MeK;DDIGIT nE;JTWO;KHvE;JFOUR;KIVE;J=X;KEVs;JEf;JNgE;
    DNUMBj Ts;LWsTY;LHIRTY;KF^TY;LIFTY;K=XTY;LEVsTY;KEfY;KNgETY;KnyHUNDvD;KTWO HUNDvD;
    LHvyHUNDvD;KFOUR HUNDvD;LIVyHUNDvD;K=X HUNDvD;LEVs HUNDvD;KEf HUNDvD;KNgyHUNDvD;@10300;
    0OLrITdIC ,A;IBE;IKE;IDE;IE;IVE;IZE;I<;IzE;II;IKA;IEL;JM;JN;JSH;IO;IPE;IS<;IKU;Ij;JS;ITE;IU;
    IEKS;IP<;IK<;IEF;JRS;IC<;III;IUU;IESS;BNUMjd nE;JFIVE;JTs;JFIFTY;@1032D;B,YE;IN^zjN TSE;
    ISOUzjN TSE;0GOzIC ,AHSA;EBAIRKk;EGIBA;EDAGS;EAIHVUS;EQAIRz+;EIUJA;EwGL;EzIUz;EEIS;EKUSMA;
    E.GUS;EMkNA;ENAUzS;EJj;EURUS;EPAIRz+;ENgETY;E+IDA;ESAUIL;ETEIWS;EWgJA;EFAIHU;EIGGWS;EHWAIR;
    EOzd;ENgyHUNDvD;@10350;0OLrPjMIC ,k;IBUR;IGAI;IDOI;IE;IZHOI;IDZHOI;IZA>;IDZI>;II;IKOKE;IiI;
    IMsOE;INsOE;IVOOI;IPEEI;IvI;I=I;I>I;IU;ICHjY;ISHOOI;KCHOOI;IYRY;JjU;IO;JO;IEF;Iw;IT=U;IVj;
    IYj;LI;JAT;IIE;IYU;JA;IIA;0COMBg&OLrPjMIC ,k;SDOI;SZA>;SNsOE;S=I;@10380;0UGeItC ,dPA;GBE>;
    GGAM.;GKw;GDEL>;GHO;GWO;GZE>;GHO>;GTET;GYOD;GKAF;GSHg;G.MDA;GMEM;GDHd;GNUN;GZU;GSAMKA;GAg;
    GPU;GSADE;GQOPA;G+Sw;GzkNA;GGwg;GTO;GI;GU;GSSU;@1039F;9W^rDIVIDj;0OLrPj=kx A;HI;HU;HKA;IU;
    HGA;IU;HXA;HCA;HJA;II;H>;IU;HDA;II;IU;HTw;HPA;HBA;HFA;HNA;IU;HMA;II;IU;HYA;HVA;II;H+;IU;H.;
    HSA;HZA;HSw;ISA;Hw;@103C8;HAU+MAZDAA;R-2;Rw;HXSwAYAzIYA;HDAHYAAUSH;Q-2;HBAGA;IUUMISH;
    CW^rDIVIDj;CNUMBj nE;JTWO;Ks;KWsTY;JHUNDvD;@10400;0DESjET caLnG I;SE;SA;TH;SO;TO;NSH^T I;TE;
    TA;UH;TO;UO;NAY;NOW;NWU;NYEE;NH;NPEE;NBEE;NTEE;NDEE;NC<E;NJEE;NKAY;NGAY;NEF;NVEE;NEz;NzEE;
    NES;NZEE;NESH;NZ<E;Nj;OL;OM;ON;PG;NOI;NEW;8qLnG I;QE;QA;RH;QO;RO;LSH^T I;RE;RA;SH;RO;SO;LAY;
    LOW;LWU;LYEE;LH;LPEE;LBEE;LTEE;LDEE;LC<E;LJEE;LKAY;LGAY;LEF;LVEE;LEz;LzEE;LES;LZEE;LESH;
    LZ<E;Lj;ML;MM;MN;NG;LOI;LEW;0SwVIk ,PEEP;FTOT;FKICK;FFEE;FzIGH;FSO;GUv;FCHURCH;FYEA;FHUNG;
    FBIB;FDEAD;FGAG;FVOW;FzEY;FZOO;FMEASUv;FJUDGE;FWOE;Fw-w;FLOLL;FMIME;FIF;FEGG;FASH;GDO;Fn;
    FWOOL;FOUT;FAH;FROe;FNUN;FEAT;FAGE;FICE;FUP;FOAK;GOZE;GIL;FAWE;Gv;F^;FAIR;FjR;Fe+Y;FEe;FIk;
    FYEW;0OSMkYA ,dEF;FBA;F>;FJA;FXA;FKw;FDEEL;F+;FSA;GHIg;FDw;FCAYN;FGA;FFA;FQAAF;FKAAF;F.k;
    FMIg;FNUUN;FWAW;Fw;FYA;FA;FE;FI;FO;FU;FAA;FEE;FOO;@104A0;8DIGIT ZjO;EnE;ETWO;FHvE;EFOUR;
    FIVE;E=X;FEVs;EEf;ENgE;@104B0;2AGycaA;MI;NN;MH;LB+;LCw;LEHCw;LE;Mg;Lw;MYA;LI;LKA;LEHKA;LKYA;
    L.;LMA;LNA;LO;Mg;LPA;LEHPA;LSA;Mw;L>;LEH>;LTSA;LEHTSA;LTSw;LDw;LU;LWA;LKw;LGw;LZA;Mw;@104D8;
    6qA;KI;LN;KH;JB+;JCw;JEHCw;JE;Kg;Jw;KYA;JI;JKA;JEHKA;JKYA;J.;JMA;JNA;JO;Kg;JPA;JEHPA;JSA;Kw;
    J>;JEH>;JTSA;JEHTSA;JTSw;JDw;JU;JWA;JKw;JGw;JZA;Kw;@10500;0ELBASk ,A;FBE;FCE;G<;FDE;FNDE;
    FD<;FEI;FE;FFE;FGE;GJE;F<;FI;FJE;FKE;Fi;Gi;FME;FNE;GA;GJE;FO;FPE;FQE;Fv;Gv;FSE;G<;FTE;G<;FU;
    FVE;FXE;FY;FZE;G<;FG<;HAMMA;FK<;@10530;0CAUCA=k dBkIk ,dT;QBET;QGIM;QDAT;QEB;QZeL;QEYN;
    QZHIL;Q>S;QCw;QYOWD;QZw;QIRB;QSw;QLk;QgYA;QXEYN;QDYk;QCe;QJHOX;QKe;QLYIT;Q<YT;QQAY;QA^;
    QCHOY;SI;RYAY;QMAQ;QQe;QNOWC;QDZYAY;QSwK;QJAYN;Qn;QTYAY;QFAM;QDZAY;QCwT;QPs;QG<YS;Q+T;QSEYK;
    QVEYZ;QtWR;QSHOY;QIWN;QCYAW;RAYN;QYAYD;QPIWR;QKIW;@1056F;JCI>tn MeK;0VIzKUQI caA;OBBE;PE",
   "OCE;P<;ODE;P<;OEI;OE;OFE;OGA;@1057C;Ow;Pw;OI;PJE;OJE;OKA;O.;P.;OME;ONE;PJE;OO;OPE;OQA;Ov;
    @1058C;OSE;P<;OTE;P<;OU;OVE;OXE;@10594;OY;OZE;@10597;9qA;MBBE;NE;MCE;N<;MDE;N<;MEI;ME;MFE;
    MGA;@105A3;Mw;Nw;MI;NJE;MJE;MKA;M.;N.;MME;MNE;NJE;MO;MPE;MQA;Mv;@105B3;MSE;N<;MTE;N<;MU;MVE;
    MXE;@105BB;MY;MZE;@10600;0LgEe Ax AB001;I2;I3;I4;I5;I6;I7;I8;I9;H10;I1;I3;I6;I7;H20;I1;JF;
    JM;I2;JF;JM;I3;JM;I4;I6;I7;I8;F028B;FB029;H30;I1;I4;I7;I8;I9;H40;I1;I4;I5;I6;I7;I8;I9;H50;
    I1;I3;I4;I5;I6;I7;I8;I9;H60;I1;I5;I6;I7;I9;H70;I3;I4;I6;I7;I8;I9;H80;I1;I2;I5;I6;I7;
    F100-102;FB118;H20;F120B;FB122;I3;H31A;JB;F131C;FB164;H71;H80;I8;H91;F301;H2;H3;H4;H5;H6;H7;
    H8;H9A;IB;IC;G10;H1;H2;H3A;IB;IC;H4;H5;H6;H7;H8;H9;G20;H1;H2;H3;H4;H5;H6;H7;H8;H9;G30;H1;H2;
    H3;H4;H5;H6;H7;H8;H9;G40;H1;H2;H3;H4;H5;H6;H7;H8;H9;G50;H1;H2;H3;H4;H5;H6;H7;H8;H9;G60;H1;
    H2;H3;H4;H5;H6;H7;H8;H9;G70;H1;F400-VAS;H1-VAS;H2-VAS;H3-VAS;H4-VAS;H5-VAS;H6-VAS;H7-VAS;
    H8-VAS;H9-VAS;G10-VAS;H1-VAS;H2-VAS;H3-VAS;H4-VAS;H5-VAS;H6-VAS;H7-VAS;H8-VAS;F501;H2;H3;H4;
    H5;H6;H8;H9;G10;H1;H2;H3;H5;H6;G20;H1;H3;H4;H5;H6;H7;H8;H9;G30;H1;H2;H4;H5;H6;H7;H8;H9;G40;
    H1;H2;H5;H7;H8;H9;G50;H1;H2;H3;H4;H5;H6;H7;H9;G63;H4;H5;H6;H8;H9;G70;H1;H2;H3;H4;H5;H6;H7;
    H8;H9;G80;H1;H2;H3;H4;H5;H6;H7;H8;H9;G91;H2;H4;H5;H6;H8;F600;H1;H2;H3;H4;H6;H8;H9;G10;H1;H2;
    H3;H4;H5;H6;H7;H8;H9;G20;H1;H2;H3;H4;H6;H7;H8;H9;G34;H7;H8;G40;H2;H3;H4;H5;H6;H8;H9;G51;H2;
    H3;H4;H5;H6;H7;H8;H9;G60;H1;H2;H3;H4;@10740;F701 A;H2 B;H3 D;H4 E;H5 F;H6 H;H7 J;H8 K;H9 L;
    I-2 L2;J3 L3;J4 L4;J6 L6;G10 W;H1 X;H2 Y;H3 OMEGA;H4 ABB;H5 BB;H7 DD;G26 EYYY;G32 JE;@10760;
    F800;H1;H2;H3;H4;H5;H6;H7;@10780;0MODIFIj iTTjmMdL cL AA;HUPjSCRIPT TRIkGULe COLn;
    SHdF TRIkGULe COLn;HMdL AE;McL B;MBbHOOK;@10787;MDZ DIG+PH;WbvTROFiX HOOK;Zz CURL;
    NEZH DIG+PH;Nb>IL;THOOK;X?>IL;MvVjSErE;MCLOSErvVjSErOPs E;MFsG DIG+PH;M+MS H^N;McL G;
    MGbHOOK;McL GbHOOK;MHbSTROKE;McL H;MHsGbHOOK;M~iSS JbSTROKykrHOOK;MLS DIG+PH;NZ DIG+PH;
    NbBELT;McL LbBELT;MLbvTROFiX HOOK?BELT;NEZH;QbvTROFiX HOOK;MTURNErY;UbBELT;MObSTROKE;McL OE;
    NLOSErOMEGA;MQ;MTURNErRbLnG iG;Z LnG iG?vTROFiX HOOK;MRb>IL;TFISHHOOK;McL R;MTC DIG+PHbCURL;
    NS DIG+PH;WbvTROFiX HOOK;NESH DIG+PH;NbvTROFiX HOOK;MVbRf HOOK;@107B2;McL Y;
    GGLOTTdmTOPbSTROKE;GvVjSErGLOTTdmTOPbSTROKE;GBI.BId CLICK;GDsTd CLICK;G.Tjd CLICK;
    GdVEOLe CLICK;GvTROFiX CLICKbvTROFiX HOOK;GSMdLmbCURL;@10800;0CYPRIOTmYL.Bi A;HE;HI;HO;HU;
    HJA;@10808;IO;@1080A;HKA;IE;II;IO;IU;H.;IE;II;IO;IU;HMA;IE;II;IO;IU;HNA;IE;II;IO;IU;HPA;IE;
    II;IO;IU;H+;IE;II;IO;IU;HSA;IE;II;IO;IU;H>;IE;II;IO;IU;HWA;IE;II;IO;@10837;HXA;IE;@1083C;
    HZA;@1083F;IO;0IMPjId eAMAIC ,dEPH;OBEz;OGIMEL;ODdEz;O<;OWAW;OZAYg;O<z;OTEz;OYODH;OKAPH;
    O.MEDH;OMEM;ONUN;OSAMEKH;OAYg;OPE;OSAD<;OQOPH;OvSH;OSHg;O>W;@10857;HSECtnx;HNUMBj nE;OTWO;
    PHvE;Ps;PWsTY;OnyHUNDvD;SzOUSkD;OTs zOUSkD;0PdMYRsy,dEPH;HBEz;HGIMEL;HDdEz;H<;HWAW;HZAYg;
    H<z;HTEz;HYODH;HKAPH;H.MEDH;HMEM;HFgd NUN;HNUN;HSAMEKH;HAYg;HPE;HSAD<;HQOPH;HvSH;HSHg;H>W;
    CFT-POgT&FiURn;ARf-POgT&FiURn;ANUMBj nE;HTWO;IHvE;HFOUR;IIVE;HTs;IWsTY;0NABA>Ek ,Fgd dEPH;
    HdEPH;HFgd BEz;HBEz;HGIMEL;HDdEz;HFgd <;H<;HWAW;HZAYg;H<z;HTEz;HFgd YODH;HYODH;HFgd KAPH;
    HKAPH;HFgd .MEDH;H.MEDH;HFgd MEM;HMEM;HFgd NUN;HNUN;HSAMEKH;HAYg;HPE;HSAD<;HQOPH;HvSH;
    HFgdmHg;HSHg;H>W;@108A7;ANUMBj nE;HTWO;IHvE;HFOUR;ACRUCIF^M NUMBj FOUR;ANUMBj FIVE;HTs;
    IWsTY;HnyHUNDvD;@108E0;0wTRk ,dEPH;EBEz;EGIMEL;EDdEz-vSH;E<;EWAW;EZAYN;E<z;ETEz;EYODH;EKAPH;
    E.MEDH;EMEM;ENUN;ESAMEKH;EAYN;EPE;ESAD<;EQOPH;@108F4;ESHg;E>W;@108FB;7NUMBj nE;EFIVE;ETs;
    FWsTY;EnyHUNDvD;0PHOsICIk ,dF;IBET;IGAML;IDELT;I<;IWAU;IZAI;I<T;ITET;IYOD;IKAF;I.MD;IMEM;
    INUN;ISEMK;IAg;IPE;ISADE;IQOF;IROSH;ISHg;I>U;BNUMBj nE;ITs;JWsTY;InyHUNDvD;ITWO;JHvE;@1091F",
   "BW^DmEPeAT^;0LYDIk ,A;EB;EG;ED;EE;EV;EI;EY;EK;EL;EM;EN;EO;ER;ESS;ET;EU;EF;EQ;ES;ETT;Ek;Es;
    ELY;ENN;EC;@1093F;7TRIkGULe MeK;@10980;0MjOItC HIjOGLYPHIC ,A;TE;TI;TO;TYA;TWA;TBA;V-2;TPA;
    TMA;TNA;V-2;UE;V-2;T+;V-2;T.;TKw;THw;TSA;V-2;UE;TKA;TQA;T>;V-2;UE;V-2;UO;TDA;MSYMBOL VIDJ;
    X-2;9CUR=Vy,A;OE;OI;OO;OYA;OWA;OBA;OPA;OMA;ONA;PE;O+;O.;OKw;OHw;OSA;OeCwICmA;OSE;OKA;OQA;O>;
    PE;PO;ODA;@109BC;HF+Ctn EiVs TWELFzS;QnyHdF;HLOGOG+M RMT;QIMN;HNUMBj nE;OTWO;PHvE;OFOUR;
    PIVE;O=X;PEVs;OEf;ONgE;OTs;PWsTY;PHIRTY;OF^TY;PIFTY;O=XTY;PEVsTY;@109D2;OnyHUNDvD;
    OTWO HUNDvD;PHvyHUNDvD;OFOUR HUNDvD;PIVyHUNDvD;O=X HUNDvD;PEVs HUNDvD;OEf HUNDvD;ONgyHUNDvD;
    OnyzOUSkD;OTWO zOUSkD;PHvyzOUSkD;OFOUR zOUSkD;PIVyzOUSkD;O=X zOUSkD;PEVs zOUSkD;OEf zOUSkD;
    ONgyzOUSkD;OTs zOUSkD;PWsTY zOUSkD;PHIRTY zOUSkD;OF^TY zOUSkD;PIFTY zOUSkD;O=XTY zOUSkD;
    PEVsTY zOUSkD;OEfY zOUSkD;ONgETY zOUSkD;OnyHUNDvrzOUSkD;OTWO HUNDvrzOUSkD;PHvyHUNDvrzOUSkD;
    OFOUR HUNDvrzOUSkD;PIVyHUNDvrzOUSkD;O=X HUNDvrzOUSkD;PEVs HUNDvrzOUSkD;OEf HUNDvrzOUSkD;
    ONgyHUNDvrzOUSkD;HF+Ctn nyTWELFz;QTWO TWELFzS;RHvyTWELFzS;QFOUR TWELFzS;RIVyTWELFzS;
    Q=X TWELFzS;REVs TWELFzS;QEf TWELFzS;QNgyTWELFzS;QTs TWELFzS;0KHeOSHzI ,A;BVOWELx I;MU;
    MVOCdIC R;@10A05;ME;MO;@10A0C;HiNGz MeK;B=GN % R&!;GkUSVeA;GVISeGA;B,KA;Jw;IGA;Jw;@10A15;
    ICA;Jw;IJA;@10A19;INYA;IT>;Kw;IDDA;Kw;INNA;I>;Jw;IDA;Jw;INA;IPA;Jw;IBA;Jw;IMA;IYA;I+;I.;IVA;
    ISw;JSA;JA;IZA;Iw;IKKA;ITTTw;LA;IVw;@10A38;B=GN Beo;GCAUDA;G~ !;@10A3F;BVI+MA;BDIGIT nE;
    HTWO;IHvE;HFOUR;BNUMBj Ts;JWsTY;InyHUNDvD;MzOUSkD;BF+Ctn nyHdF;@10A50;BPUNCTUAtn ~;NSMdL _i;
    N_i;OvSCsT Be;NMkGdAM;NLOTUS;NDkDA;OOUBi DkDA;NLgES;@10A60;0OLDmOUz eABIk ,<;P.MEDH;P<z;
    PMEM;PQOPH;PWAW;PSHg;PvSH;PBEz;P>W;PSAT;PKAPH;PNUN;PK<z;PSAD<;RMEKH;PFE;PdEF;QYN;PDwD<;
    PGIMEL;PDdEz;PGwYN;PTEz;PZAYN;PDHdEz;PYODH;PTwW;REz;INUMBj nE;PFIFTY;LjIC gDICAT^;
    4N^z eABIk ,<H;P.M;PwH;PMEEM;PQAF;PWAW;PES-2;PvH;PBEH;PTEH;PES-1;PKAF;PNOn;PKwH;PSAD;PES-3;
    PFEH;PdEF;Qg;PDAD;PGEEM;PDd;PGwg;P>H;PZAg;Pzd;PYEH;PzEH;PZAH;INUMBj nE;PTs;QWsTY;@10AC0;
    0MkICwEk ,dEPH;IBEz;J<z;IGIMEL;JHIMEL;IDdEz;I<;IWAW;B=GN UD;B,ZAYg;JwYg;IJAYg;JwYg;I<z;ITEz;
    IYODH;IKAPH;IXAPH;IKwPH;I.MEDH;IDwMEDH;ITwMEDH;IMEM;INUN;ISAMEKH;IAYg;JAYg;IPE;IFE;ISAD<;
    IQOPH;IXOPH;IQHOPH;IvSH;ISHg;JSHg;I>W;BABBvVIAtn MeKo;T!;@10AEB;BNUMBj nE;IFIVE;ITs;JWsTY;
    InyHUNDvD;BPUNCTUAtnmTe;NFiURn;N% ~ WIzg ~;PT WIzg ~;PT;NTWO ~S;NLgyFILiR;@10B00;0AVESTk ,A;
    GA;GO;GAO;GN;Gk;GE;HE;FE;GE;FO;GO;FI;GI;FU;GU;FKE;FXE;GYE;GVE;FGE;GGE;G<;FCE;FJE;FTE;G<;FDE;
    G<;FTTE;FPE;FFE;FBE;G<;FNGE;HYE;HVE;GE;GYE;GNE;FME;FHME;FYYE;GE;FVE;Fv;Fi;FSE;FZE;FS<;FZ<;
    FSHYE;GS<;F<;@10B39;8ABBvVIAtn MeK;0TgY TWO ~S OVj ny~ PUNCTUAtn;
    0SMdL TWO ~S OVj ny~ PUNCTUAtn;0LeGyTWO ~S OVj ny~ PUNCTUAtn;6ny~ OVj TWO ~S PUNCTUAtn;
    6TWO RgGS OVj nyR&PUNCTUAtn;6nyR&OVj TWO RgGS PUNCTUAtn;0gSCRIPtnd PezIk ,dEPH;UBEz;UGIMEL;
    UDdEz;U<;UWAW;UZAYg;U<z;UTEz;UYODH;UKAPH;U.MEDH;UMEM;UNUN;USAMEKH;UAYg;UPE;USAD<;UQOPH;UvSH;
    USHg;U>W;@10B58;NNUMBj nE;UTWO;VHvE;UFOUR;UTs;VWsTY;UnyHUNDvD;YzOUSkD;GH.VI ,dEPH;TBEz;
    TGIMEL;TDdEz;T<;TWAW-AYg-vSH;TZAYg;T<z;TTEz;TYODH;TKAPH;T.MEDH;TMEM-QOPH;TNUN;TSAMEKH;TPE;
    TSAD<;UHg;T>W;@10B78;MNUMBj nE;TTWO;UHvE;TFOUR;TTs;UWsTY;TnyHUNDvD;XzOUSkD;
    0PSdTj PAH.VI ,dEPH;NBEz;NGIMEL;NDdEz;N<;NWAW-AYg-vSH;NZAYg;N<z;NYODH;NKAPH;N.MEDH;
    NMEM-QOPH;NNUN;NSAMEKH;NPE;NSAD<;OHg;N>W;@10B99;GSECtn MeK;GTURNEDmECtn MeK;GFOUR ~SbCROSS;
    V~;@10BA9;GNUMBj nE;NTWO;OHvE;NFOUR;NTs;OWsTY;NnyHUNDvD;@10C00;0OLrTURKIC ,^KHn A;IYsISEI A;
    RE;I^KHn I;IYsISEI I;QE;I^KHn O;QE;IYsISEI OE;I^KHn AB;IYsISEI AB;I^KHn AEB;IYsISEI AEB;
    I^KHn AG;IYsISEI AG;I^KHn AEG;IYsISEI AEG;I^KHn AD;IYsISEI AD;I^KHn AED;PEZ;IYsISEI EZ",
   "I^KHn AY;IYsISEI AY;I^KHn AEY;IYsISEI AEY;I^KHn AEK;IYsISEI AEK;I^KHn OEK;IYsISEI OEK;
    I^KHn d;IYsISEI d;I^KHn AEL;PELT;QM;Pk;Qs;IYsISEI As;I^KHn sT;IYsISEI sT;I^KHn sC;
    IYsISEI sC;I^KHn sY;IYsISEI sY;QkG;I^KHn sG;IYsISEI AsG;I^KHn EP;POP;PIC;PEC;IYsISEI EC;
    I^KHn AQ;IYsISEI AQ;I^KHn IQ;IYsISEI IQ;I^KHn OQ;IYsISEI OQ;I^KHn e;IYsISEI e;I^KHn Aj;QS;
    QES;QSH;IYsISEI ASH;I^KHn ESH;IYsISEI ESH;I^KHn AT;IYsISEI AT;I^KHn AET;IYsISEI AET;
    I^KHn OT;PBASH;@10C80;4HUNGeIk caA;UA;TEB;TAMB;TEC;UNC;UCS;UD;TkD;TE;TCLOSyE;TEE;UF;UG;VY;
    UH;TI;UI;TEJ;UK;TAK;TUNK;TEL;VY;UM;UN;VY;TO;UO;TNIKOLSBURG OE;TRUDIMs> OE;TOEE;TEP;UMP;UR;
    TSH^T j;TES;VZ;UT;UNT;UTY;UCH;TU;UU;TNIKOLSBURG UE;TRUDIMs> UE;TEV;UZ;VS;UNT-SwPEDx;TUS;
    @10CC0;EqA;SA;REB;RAMB;REC;SNC;SCS;SD;RkD;RE;RCLOSyE;REE;SF;SG;TY;SH;RI;SI;REJ;SK;RAK;RUNK;
    REL;TY;SM;SN;TY;RO;SO;RNIKOLSBURG OE;RRUDIMs> OE;ROEE;REP;SMP;SR;RSH^T j;RES;TZ;ST;SNT;STY;
    SCH;RU;SU;RNIKOLSBURG UE;RRUDIMs> UE;REV;SZ;TS;SNT-SwPEDx;RUS;@10CFA;ENUMBj nE;LFIVE;LTs;
    LFIFTY;LnyHUNDvD;PzOUSkD;0HkIFI ROHgGYA ,A;NBA;NPA;N>;O>;NJA;NCA;Nw;NKw;NFA;NDA;ODA;N+;O+;
    NZA;NSA;Ow;NKA;NGA;N.;NMA;NNA;NWA;NKgNA WA;NYA;NKgNA YA;NNGA;OYA;NVA;GVOWEL A;MI;MU;ME;MO;
    GMeKmAKg;LNA KHnNA;G=GN HeBAwY;L>HdA;NNA;NS=;@10D30;GDIGIT ZjO;MnE;MTWO;NHvE;MFOUR;NIVE;M=X;
    NEVs;MEf;MNgE;@10E60;0RUMI DIGIT nE;BTWO;CHvE;BFOUR;CIVE;B=X;CEVs;BEf;BNgE;5NUMBj Ts;DWsTY;
    DHIRTY;CF^TY;DIFTY;C=XTY;DEVsTY;CEfY;CNgETY;CnyHUNDvD;CTWO HUNDvD;DHvyHUNDvD;CFOUR HUNDvD;
    DIVyHUNDvD;C=X HUNDvD;DEVs HUNDvD;CEf HUNDvD;CNgyHUNDvD;5F+Ctn nyHdF;IQUeTj;IzIRD;
    ETWO zIRDS;@10E80;0YEZIDI ,ELIF;EBE;EPE;F<;EzE;ESE;ECIM;FHIM;GHIM;EHw;EXA;EDd;EZd;E+;Fw;EZA;
    EJA;ESg;FHg;FAD;EDAD;E>;EZE;EEYN;EX<YN;EFA;EVA;G dTjNATEh;EQAF;EKAF;FwF;EGAF;E.M;EMIM;ENUN;
    EUM;EWAW;EOW;EEW;EwY;EYOT;EET;@10EAB;7COMBg&wMZA MeK;HMADDA MeK;7HYPHsAtn MeK;@10EB0;
    7,.Mb~o;EYOTb_UMFiXo;@10F00;0OLDmOGDIk ,dEPH;JFgd dEPH;JBEz;JFgd BEz;JGIMEL;J<;JFgd <;JWAW;
    JZAYg;J<z;JYODH;JKAPH;J.MEDH;JMEM;JNUN;JFgd NUN;SbVjtCd >IL;JSAMEKH;JAYg;KLTjNATyAYg;JPE;
    JSAD<;JFgdmAD<;UbVjtCd >IL;JvSH-AYg-DdEz;JSHg;J>W;JFgd >W;SbVjtCd >IL;CNUMBj nE;JTWO;KHvE;
    JFOUR;KIVE;JTs;KWsTY;KHIRTY;JnyHUNDvD;CF+Ctn nyHdF;CLIGATUv AYg-DdEz;@10F30;0SOGDIk ,dEPH;
    FBEz;FGIMEL;F<;FWAW;FZAYg;F<z;FYODH;FKAPH;F.MEDH;FMEM;FNUN;FSAMEKH;FAYg;FPE;FSAD<;FvSH-AYg;
    FSHg;F>W;FFEz;FiSH;8gDEPsDsTmHg;8COMBg&~ !;ITWO ~S !;I~o;ITWO ~So;ICURVEo;O!;IHOOKo;N!;
    ILnG HOOK !;IvSH !;ISTROKy!;8NUMBj nE;FTs;GWsTY;FnyHUNDvD;8PUNCTUAtn TWO VjtCd BeS;ZRSb~S;
    K_ib~;KTWO _iSb~S;KHdF _ib~;@10F70;0OLrUYGHUR ,dEPH;IBEz;IGIMEL-<z;IWAW;IZAYg;IFgd <z;IYODH;
    IKAPH;I.MEDH;IMEM;INUN;ISAMEKH;IPE;ISAD<;IvSH;ISHg;I>W;IiSH;BCOMBg&~o;P!;LTWO ~So;U!;
    BPUNCTUAtn Be;NTWO BeS;R~S;NFOUR ~S;@10FB0;0CHO+SMIk ,dEPH;ISMdL dEPH;IBEz;IGIMEL;IDdEz;I<;
    IWAW;ICURirWAW;IZAYg;I<z;IYODH;IKAPH;I.MEDH;IMEM;INUN;ISAMEKH;IAYg;IPE;IvSH;ISHg;I>W;
    BNUMBj nE;ITWO;JHvE;IFOUR;ITs;JWsTY;InyHUNDvD;@10FE0;0ELYMAIC ,dEPH;FBEz;FGIMEL;FDdEz;F<;
    FWAW;FZAYg;F<z;FTEz;FYODH;FKAPH;F.MEDH;FMEM;FNUN;FSAMEKH;FAYg;FPE;FSAD<;FQOPH;FvSH;FSHg;F>W;
    9IGATUv ZAYg-YODH;@11000;0B+HMIx CkD+BgDU;CkUSVeA;CVISeGA;CJIHVAMULIYA;CUPADHMkIYA;7,A;FA;
    EI;FI;EU;FU;EVOCdIC R;NR;ML;NL;EE;EAI;EO;EAU;EKA;Fw;EGA;Fw;ENGA;ECA;Fw;EJA;Fw;ENYA;ET>;Gw;
    EDDA;Gw;ENNA;E>;Fw;EDA;Fw;ENA;EPA;Fw;EBA;Fw;EMA;EYA;E+;E.;EVA;ESw;FSA;FA;Ew;EL.;
    EOLr>MIL LL.;OR+;ONNNA;7VOWELx AA;IBwTtPROLU AA;II;JI;IU;JU;IVOCdIC R;RR;QL;RL;IE;IAI;IO;
    IAU;8I+MA;7DkDA;8OUBi DkDA;7PUNCTUAtn ~;LUBi ~;JLgE;JCvSCsT Be;JLOTUS;@11052;7NUMBj nE;ETWO;
    FHvE;EFOUR;FIVE;E=X;FEVs;EEf;ENgE;ETs;FWsTY;FHIRTY;EF^TY;FIFTY;E=XTY;FEVsTY;EEfY;ENgETY;
    EnyHUNDvD;IzOUSkD;7DIGIT ZjO;DnE;DTWO;EHvE;DFOUR;EIVE;D=X;EEVs;DEf;DNgE;7=GN OLr>MIL VI+MA",
   "7,OLr>MILmH^T E;UO;7VOWELx OLr>MILmH^T E;YO;7,OLr>MIL L.;@1107F;7NUMBj JOgj;
    0KAIzIx CkD+BgDU;CkUSVeA;CVISeGA;7,A;FA;EI;FI;EU;FU;EE;EAI;EO;EAU;EKA;Fw;EGA;Fw;ENGA;ECA;Fw;
    EJA;Fw;ENYA;ET>;Gw;EDDA;GDw;Gw;ERw;ENNA;E>;Fw;EDA;Fw;ENA;EPA;Fw;EBA;Fw;EMA;EYA;E+;E.;EVA;
    ESw;FSA;FA;Ew;7VOWELx AA;II;JI;IU;JU;IE;IAI;IO;IAU;7=GN VI+MA;CNUK>;7ABBvVIAtnx;7sUMjAtnx;
    7NUMBjx;7SECtn MeK;7%mECtn MeK;8kDA;8OUBi DkDA;7VOWELx VOCdIC R;@110CD;7NUMBjxo;@110D0;
    0SO+mOMPsG iTTjmAH;K>H;KBAH;KCAH;KDAH;KGAH;KMAH;KNGAH;K.H;KNAH;KVAH;KPAH;KYAH;K+H;KwH;KKAH;
    KJAH;KNYAH;KAH;KEEH;KIH;KUH;KOH;KEH;KMAE;@110F0;DDIGIT ZjO;JnE;JTWO;KHvE;JFOUR;KIVE;J=X;
    KEVs;JEf;JNgE;@11100;0CwKMAx CkD+BgDU;CkUSVeA;CVISeGA;7,AA;EI;EU;EE;EKAA;FwA;EGAA;FwA;ENGAA;
    ECAA;FwA;EJAA;FwA;ENYAA;ET>A;GwA;EDDAA;GwA;ENNAA;E>A;FwA;EDAA;FwA;ENAA;EPAA;FwA;EBAA;FwA;
    EMAA;EYYAA;FAA;E+A;E.A;EWAA;ESAA;EwA;7VOWELx A;II;JI;IU;JU;IE;IAI;IO;IAU;IOI;7O MeK;7AU MeK;
    7VI+MA;7MAAYYAA;@11136;7DIGIT ZjO;DnE;DTWO;EHvE;DFOUR;EIVE;D=X;EEVs;DEf;DNgE;7SECtn MeK;
    7DkDA;8OUBi DkDA;7QUEStn MeK;7,LwA;7VOWELx AA;IEI;7,VAA;@11150;0MAwJkI ,A;GI;GU;GE;GO;GKA;
    Hw;GGA;Hw;GCA;Hw;GJA;Hw;GNYA;GT>;Iw;GDDA;Iw;GNNA;G>;Hw;GDA;Hw;GNA;GPA;Hw;GBA;Hw;GMA;G+;G.;
    GVA;GSA;Gw;GR+;9=GN NUK>;9ABBvVIAtnx;9SECtn MeK;9LIGATUvmHRI;@11180;0SHeADAx CkD+BgDU;
    DkUSVeA;DVISeGA;8,A;GA;FI;GI;FU;GU;FVOCdIC R;OR;NL;OL;FE;FAI;FO;FAU;FKA;Gw;FGA;Gw;FNGA;FCA;
    Gw;FJA;Gw;FNYA;FT>;Hw;FDDA;Hw;FNNA;F>;Gw;FDA;Gw;FNA;FPA;Gw;FBA;Gw;FMA;FYA;F+;F.;G.;FVA;FSw;
    GSA;GA;Fw;8VOWELx AA;JI;KI;JU;KU;JVOCdIC R;SR;RL;SL;JE;JAI;JO;JAU;8=GN VI+MA;DAVAG+w;
    DJIHVAMULIYA;DUPADHMkIYA;8OM;8DkDA;9OUBi DkDA;8ABBvVIAtnx;8SEPeAT^;9kDHI MeK;9IGN NUK>;
    8VOWEL MODIFIj MeK;8EXT+mH^T VOWEL MeK;8SUT+ MeK;8VOWELx PRISHTwMAT+ E;8=GN gVjTErCkD+BgDU;
    8DIGIT ZjO;EnE;ETWO;FHvE;EFOUR;FIVE;E=X;FEVs;EEf;ENgE;8EKAM;8=GNmIDDwM;8<ADSTROKE;
    8CnTgUAtnx;8SECtn MeK-1;L2;@111E1;1gHdA eCwIC DIGIT nE;MTWO;NHvE;MFOUR;NIVE;M=X;NEVs;MEf;
    MNgE;GNUMBj Ts;OWsTY;OHIRTY;NF^TY;OIFTY;N=XTY;OEVsTY;NEfY;NNgETY;NnyHUNDvD;RzOUSkD;@11200;
    0KHOJKI ,A;FA;EI;EU;EE;EAI;EO;EAU;EKA;Fw;EGA;FGA;Fw;ENGA;ECA;Fw;EJA;FJA;@11213;ENYA;ET>;Gw;
    EDDA;Gw;ENNA;E>;Fw;EDA;FDDA;Fw;ENA;EPA;Fw;EBA;FBA;Fw;EMA;EYA;E+;E.;EVA;ESA;Ew;EL.;
    7VOWELx AA;II;JI;IU;IE;IAI;IO;IAU;7=GN kUSVeA;CVI+MA;CNUK>;CSwDDA;7DkDA;8OUBi DkDA;
    7W^DmEPeAT^;7SECtn MeK;7%mECtn MeK;7ABBvVIAtnx;7=GNmUKUN;@11280;0MULTkI ,A;FI;FU;FE;FKA;Gw;
    FGA;@11288;Gw;@1128A;FCA;Gw;FJA;GJA;@1128F;FNYA;FT>;Hw;FDDA;HDA;Hw;FNNA;F>;Gw;FDA;Gw;FNA;
    FPA;Gw;FBA;@1129F;Gw;FMA;FYA;F+;F.;FVA;FSA;Fw;FR+;Gw;8SECtn MeK;@112B0;0KHUDAWADI ,A;IA;HI;
    II;HU;IU;HE;HAI;HO;HAU;HKA;Iw;HGA;IGA;Iw;HNGA;HCA;Iw;HJA;IJA;Iw;HNYA;HT>;Jw;HDDA;JDA;HR+;
    HDDw;HNNA;H>;Iw;HDA;Iw;HNA;HPA;Iw;HBA;IBA;Iw;HMA;HYA;H+;H.;HVA;HSw;IA;Hw;A=GN kUSVeA;
    AVOWELx AA;LI;MI;LU;MU;LE;LAI;LO;LAU;A=GN NUK>;FVI+MA;@112F0;ADIGIT ZjO;GnE;GTWO;HHvE;GFOUR;
    HIVE;G=X;HEVs;GEf;GNgE;@11300;0GRkTwx COMBg&kUSVeAo;EkD+BgDU;DkUSVeA;DVISeGA;@11305;8,A;GA;
    FI;GI;FU;GU;FVOCdIC R;NL;@1130F;FEE;FAI;@11313;FOO;FAU;FKA;Gw;FGA;Gw;FNGA;FCA;Gw;FJA;Gw;
    FNYA;FT>;Hw;FDDA;Hw;FNNA;F>;Gw;FDA;Gw;FNA;@1132A;FPA;Gw;FBA;Gw;FMA;FYA;F+;@11332;F.;G.;
    @11335;FVA;FSw;GSA;GA;Fw;@1133B;0COMBg&BgDU !;0GRkTwx NUK>;DAVAG+w;8VOWELx AA;JI;KI;JU;KU;
    JVOCdIC R;SR;@11347;JEE;JAI;@1134B;JOO;JAU;8=GN VI+MA;@11350;8OM;@11357;8AU iNGz MeK;@1135D;
    8=GN PLU>;8,VEDIC kUSVeA;L% kUSVeA;GOCdIC RR;NLL;8VOWELx VOCdIC L;SL;@11366;
    0COMBg&GRkTw DIGIT ZjO;OnE;OTWO;PHvE;OFOUR;PIVE;O=X;@11370;I,A;PKA;PNA;PVI;PPA;@11400;
    0NEWA ,A;DA;CI;DI;CU;DU;CVOCdIC R;LR;KL;LL;CE;CAI;CO;CAU;CKA;Dw;CGA;Dw;CNGA;Ew;CCA;Dw;CJA;
    Dw;CNYA;Ew;CT>;Ew;CDDA;Ew;CNNA;C>;Dw;CDA;Dw;CNA;Dw;CPA;Dw;CBA;Dw;CMA;Dw;CYA;C+;Dw;C.;Dw;CWA",
   "CSw;DSA;DA;Cw;5VOWELx AA;GI;HI;GU;HU;GVOCdIC R;PR;OL;PL;GE;GAI;GO;GAU;5=GN VI+MA;ACkD+BgDU;
    AkUSVeA;AVISeGA;ANUK>;AAVAG+w;AFgd kUSVeA;5OM;5=DDHI;5DkDA;6OUBi DkDA;5COMMA;5GAP FILiR;
    5ABBvVIAtnx;5DIGIT ZjO;BnE;BTWO;CHvE;BFOUR;CIVE;B=X;CEVs;BEf;BNgE;6OUBi COMMA;
    5P.CEHOLDj MeK;@1145D;5gSjtnx;5SkDHI MeK;5,VEDIC kUSVeA;5=GN JIHVAMULIYA;AUPADHMkIYA;@11480;
    0tRHU> kJI;8,A;GA;FI;GI;FU;GU;FVOCdIC R;OR;NL;OL;FE;FAI;FO;FAU;FKA;Gw;FGA;Gw;FNGA;FCA;Gw;
    FJA;Gw;FNYA;FT>;Hw;FDDA;Hw;FNNA;F>;Gw;FDA;Gw;FNA;FPA;Gw;FBA;Gw;FMA;FYA;F+;F.;FVA;FSw;GSA;GA;
    Fw;8VOWELx AA;JI;KI;JU;KU;JVOCdIC R;SR;RL;SL;JE;JSH^T E;JAI;JO;JSH^T O;JAU;8=GN CkD+BgDU;
    DkUSVeA;DVISeGA;F+MA;DNUK>;DAVAG+w;8GVkG;8ABBvVIAtnx;8OM;@114D0;8DIGIT ZjO;EnE;ETWO;FHvE;
    EFOUR;FIVE;E=X;FEVs;EEf;ENgE;@11580;0=DDwM ,A;GA;FI;GI;FU;GU;FVOCdIC R;OR;NL;OL;FE;FAI;FO;
    FAU;FKA;Gw;FGA;Gw;FNGA;FCA;Gw;FJA;Gw;FNYA;FT>;Hw;FDDA;Hw;FNNA;F>;Gw;FDA;Gw;FNA;FPA;Gw;FBA;
    Gw;FMA;FYA;F+;F.;FVA;FSw;GSA;GA;Fw;8VOWELx AA;JI;KI;JU;KU;JVOCdIC R;SR;@115B8;JE;JAI;JO;JAU;
    8=GN CkD+BgDU;DkUSVeA;DVISeGA;F+MA;DNUK>;D=DDwM;8DkDA;9OUBi DkDA;8SEPeAT^ ~;IBe;
    8vPEttn MeK-1;O2;O3;8srOF TEXT MeK;8SECtn MeKbTRIDsT?U-SwPEr^NAMsTS;ZNr~TErCvSCsTS;
    Q+YS?~TErCvSCsTS;Z~TEr% CvSCsTS;Z~TErTRIPi CvSCsTS;L% RgG;Wb+YS;LWIz % CvSCsTS;
    QTRIPi CvSCsTS;QQUADRUPi CvSCsTS;QSEPTUPi CvSCsTS;Q_iS?+YS;ZNrTWO sCLOSUvS;ZNrFOUR sCLOSUvS;
    8,zvE-_i dTjNATyI;GWO-_i dTjNATyI;Z II;FdTjNATyU;8VOWELx dTjNATyU;UU;@11600;0MODI ,A;DA;CI;
    DI;CU;DU;CVOCdIC R;LR;KL;LL;CE;CAI;CO;CAU;CKA;Dw;CGA;Dw;CNGA;CCA;Dw;CJA;Dw;CNYA;CT>;Ew;CDDA;
    Ew;CNNA;C>;Dw;CDA;Dw;CNA;CPA;Dw;CBA;Dw;CMA;CYA;C+;C.;CVA;CSw;DSA;DA;Cw;CL.;5VOWELx AA;GI;HI;
    GU;HU;GVOCdIC R;PR;OL;PL;GE;GAI;GO;GAU;5=GN kUSVeA;AVISeGA;C+MA;AeDwCkD+;5DkDA;6OUBi DkDA;
    5ABBvVIAtnx;5=GN HUVA;@11650;5DIGIT ZjO;BnE;BTWO;CHvE;BFOUR;CIVE;B=X;CEVs;BEf;BNgE;@11660;
    2NGOLIk BIRGAb^NAMsT;ARO>TErBIRGA;A% BIRGAb^NAMsT;ATRIPi BIRGAb^NAMsT;ABIRGAb% ^NAMsT;
    ARO>TErBIRGAb^NAMsT;T% ^NAMsT;AgVjTErBIRGA;Ob% ^NAMsT;ASWIRL BIRGA;Lb^NAMsT;R% ^NAMsT;
    ATURNEDmWIRL BIRGAb% ^NAMsT;@11680;0>KRI ,A;EA;DI;EI;DU;EU;DE;DAI;DO;DAU;DKA;Ew;DGA;Ew;DNGA;
    DCA;Ew;DJA;Ew;DNYA;DT>;Fw;DDDA;Fw;DNNA;D>;Ew;DDA;Ew;DNA;DPA;Ew;DBA;Ew;DMA;DYA;D+;D.;DVA;DSw;
    EA;Dw;DR+;6=GN kUSVeA;BVISeGA;6VOWELx AA;HI;II;HU;IU;HE;HAI;HO;HAU;6=GN VI+MA;BNUK>;
    6,eCwIC Kw;6ABBvVIAtnx;@116C0;6DIGIT ZjO;CnE;CTWO;DHvE;CFOUR;DIVE;C=X;DEVs;CEf;CNgE;@11700;
    0AHOM ,KA;Dw;CNGA;DA;C>;CdTjNATy>;CPA;Dw;CBA;CMA;CJA;CCw;CTw;C+;C.;CSA;CNYA;Cw;CA;CDA;Dw;
    CGA;CdTjNATyGA;CGw;CBw;CJw;CdTjNATyBA;@1171D;5CnSnkTx MEDId .;R+;RLIGAT&+;5VOWELx A;HA;GI;
    HI;GU;HU;GE;GAW;GO;GAI;HM;5=GN KILiR;@11730;5DIGIT ZjO;BnE;BTWO;CHvE;BFOUR;CIVE;B=X;CEVs;
    BEf;BNgE;5NUMBj Ts;DWsTY;5=GNmMdLmECtn;BECtn;ARU.I;6YMBOL VI;5,CA;CT>;Ew;CDDA;Ew;CNNA;CL.;
    @11800;0DOG+ ,A;EA;DI;EI;DU;EU;DE;DAI;DO;DAU;DKA;Ew;DGA;Ew;DNGA;DCA;Ew;DJA;Ew;DNYA;DT>;Fw;
    DDDA;Fw;DNNA;D>;Ew;DDA;Ew;DNA;DPA;Ew;DBA;Ew;DMA;DYA;D+;D.;DVA;DSw;ESA;EA;Dw;DR+;6VOWELx AA;
    HI;II;HU;IU;HVOCdIC R;QR;HE;HAI;HO;HAU;6=GN kUSVeA;BVISeGA;D+MA;BNUK>;6ABBvVIAtnx;@118A0;
    0WekG CIt caNGAA;RA;RWI;RYU;SA;SO;RII;RUU;RE;RO;RkG;RGA;RKO;RsY;RYUJ;RUC;RsN;RODD;RTTE;
    RNUNG;RDA;RAT;SM;RBU;RPU;RHIYO;SOLO;TRR;Se;RSSUU;SII;RVIYO;CqNGAA;PA;PWI;PYU;QA;QO;PII;PUU;
    PE;PO;PkG;PGA;PKO;PsY;PYUJ;PUC;PsN;PODD;PTTE;PNUNG;PDA;PAT;QM;PBU;PPU;PHIYO;QOLO;RRR;Qe;
    PSSUU;QII;PVIYO;CDIGIT ZjO;InE;ITWO;JHvE;IFOUR;JIVE;I=X;JEVs;IEf;INgE;CNUMBj Ts;KWsTY;
    KHIRTY;JF^TY;KIFTY;J=XTY;KEVsTY;JEfY;JNgETY;@118FF;COM;0DIVES AKURU ,A;KA;JI;KI;JU;KU;JE;
    @11909;JO;@1190C;JKA;Kw;JGA;Kw;JNGA;JCA;Kw;JJA;@11915;JNYA;JT>;@11918;JDDA;Lw;JNNA;J>;Kw;
    JDA;Kw;JNA;JPA;Kw;JBA;Kw;JMA;JYA;KYA;J+;J.;JVA;JSw;KSA;KA;Jw;JL.;JZA;CVOWELx AA;NI;OI;NU;OU",
   "NE;@11937;NAI;NO;@1193B;C=GN kUSVeA;HCkD+BgDU;HHdk>;CVI+MA;CPvFIXErNASdx;CMEDId YA;CgItd +;
    CMEDId +;C=GN NUK>;C% DkDA;CGAP FILiR;CsrOF TEXT MeK;@11950;CDIGIT ZjO;InE;ITWO;JHvE;IFOUR;
    JIVE;I=X;JEVs;IEf;INgE;@119A0;0NkDgAGeI ,A;KA;JI;KI;JU;KU;JVOCdIC R;SR;@119AA;JE;JAI;JO;JAU;
    JKA;Kw;JGA;Kw;JNGA;JCA;Kw;JJA;Kw;JNYA;JT>;Lw;JDDA;Lw;JNNA;J>;Kw;JDA;Kw;JNA;JPA;Kw;JBA;Kw;
    JMA;JYA;J+;J.;JVA;JSw;KSA;KA;Jw;JL.;JR+;CVOWELx AA;NI;OI;NU;OU;NVOCdIC R;WR;@119DA;NE;NAI;
    NO;NAU;C=GN kUSVeA;HVISeGA;J+MA;HAVAG+w;H=DDwM;C<ADSTROKE;CVOWELx PRISHTwMAT+ E;@11A00;
    0ZkABAZemQUey,A;HVOWELx I;SUE;SU;SE;SOE;SO;SAI;TU;SvVjSErI;NiNGz MeK;H,KA;Pw;OGA;Pw;ONGA;
    OCA;Pw;OJA;ONYA;OT>;Qw;ODDA;Qw;ONNA;O>;Pw;ODA;Pw;ONA;OPA;Pw;OBA;Pw;OMA;OTSA;Qw;ODZA;Qw;OZw;
    PA;O-A;OYA;O+;O.;OVA;OSw;PSA;PA;Ow;OKSSA;HFgd CnSnkT MeK;H=GN VI+MA;MCkD+BgDU;Xb^NAMsT;
    Sb^NAMsT;MkUSVeA;MVISeGA;HCLUSTj-gItAa+;PFgAaYA;Zj +;Zj .;Zj VA;HgItd <ArMeK;HCLOS&<ArMeK;
    HMeK TS<G;MSwD;M%mwD;MLnG TS<G;HgItd %-LgEr<ArMeK;HCLOS&%-LgEr<ArMeK;HSUBJOgj;@11A50;
    0SOYOMBO ,A;8VOWELx I;JUE;JU;JE;JO;KE;JAI;KU;JVOCdIC R;RL;EiNGz MeK;8,KA;Gw;FGA;Gw;FNGA;FCA;
    Gw;FJA;Gw;FNYA;FT>;Hw;FDDA;Hw;FNNA;F>;Gw;FDA;Gw;FNA;FPA;Gw;FBA;Gw;FMA;FTSA;Hw;FDZA;FZw;GA;
    F-A;FYA;F+;F.;FVA;FSw;GSA;GA;Fw;FKSSA;8=GN JIHVAMULIYA;DUPADHMkIYA;8CLUSTj-gItAa+;V.;VSw;WA;
    8Fgd CnSnkTx G;TK;TNG;TD;TN;TB;TM;TR;TL;TSH;TS;T-A;8=GN kUSVeA;DVISeGA;8GEMgAtn MeK;
    8SUBJOgj;8MeK TS<G;DSwD;D%mwD;DPLU>;8<ArMeKbMOn kDmUN?TRIPi F.ME;Z?F.ME;YN;8TjMgd MeK-1;M2;
    @11AB0;0CkADIkmYL.BICS NATtLIK HI;UI;TO;UO;TA;UA;SSHRI;WI;VO;WO;VA;WA;JSPE;LI;LO;LA;
    0PAU Cg wU ,PA;JKA;J.;JMA;JDA;JZA;JVA;JNGA;Jw;JGA;JKw;JSA;JBA;JCA;J>;Kw;JNA;JPw;J+;JFA;JCw;
    JA;JE;JI;JO;JU;KA;JIA;JFgd P;PK;PT;PM;PN;PL;PW;PNG;PY;CRIS&TnyLnG;ME;CSkDHI GLOTTdmTOP;
    CRIS&TnyLnG Fgd;OFgd;CSkDHI GLOTTdmTOP Fgd;JTnyLnG;ME;N LnG Fgd;OFgd;CMID-iVEL TnE;
    CGLOTTdmTOP VeIkT;CMID-iVEL TnyLnG Fgd;RFgd;CLOW-FdL&TnyLnG;RE;CGLOTTdmTOP;
    CLOW-FdL&TnyLnG Fgd;TFgd;CGLOTTdmTOP Fgd;@11C00;0BwIKSUKI ,A;IA;HI;II;HU;IU;HVOCdIC R;QR;PL;
    @11C0A;HE;HAI;HO;HAU;HKA;Iw;HGA;Iw;HNGA;HCA;Iw;HJA;Iw;HNYA;HT>;Jw;HDDA;Jw;HNNA;H>;Iw;HDA;Iw;
    HNA;HPA;Iw;HBA;Iw;HMA;HYA;H+;H.;HVA;HSw;ISA;IA;Hw;AVOWELx AA;LI;MI;LU;MU;LVOCdIC R;UR;TL;
    @11C38;LE;LAI;LO;LAU;A=GN CkD+BgDU;FkUSVeA;FVISeGA;H+MA;FAVAG+w;ADkDA;BOUBi DkDA;
    AW^DmEPeAT^;AGAP FILiR-1;L2;@11C50;ADIGIT ZjO;GnE;GTWO;HHvE;GFOUR;HIVE;G=X;HEVs;GEf;GNgE;
    ANUMBj nE;HTWO;IHvE;HFOUR;IIVE;H=X;IEVs;HEf;HNgE;HTs;IWsTY;IHIRTY;HF^TY;IIFTY;H=XTY;IEVsTY;
    HEfY;HNgETY;AHUNDvDS UNIT MeK;@11C70;0MeCHs <ArMeK;8MeKmwD;8,KA;Gw;FGA;FNGA;FCA;Gw;FJA;FNYA;
    F>;Gw;FDA;FNA;FPA;Gw;FBA;FMA;FTSA;Hw;FDZA;FWA;FZw;GA;F-A;FYA;F+;F.;FSw;GA;Fw;FA;@11C92;
    8SUBJOgEr,KA;Qw;PGA;PNGA;PCA;Qw;PJA;PNYA;P>;Qw;PDA;PNA;PPA;Qw;PBA;PMA;PTSA;Rw;PDZA;PWA;PZw;
    QA;@11CA9;PYA;P+;P.;PSw;QA;Pw;PA;8VOWELx AA;JI;JU;JE;JO;8=GN kUSVeA;DCkD+BgDU;@11D00;
    2SeAM GnDI ,A;MA;LI;MI;LU;MU;LE;@11D08;LAI;LO;@11D0B;LAU;LKA;Mw;LGA;Mw;LNGA;LCA;Mw;LJA;Mw;
    LNYA;LT>;Nw;LDDA;Nw;LNNA;L>;Mw;LDA;Mw;LNA;LPA;Mw;LBA;Mw;LMA;LYA;L+;L.;LVA;LSw;MSA;MA;Lw;LL.;
    LKSSA;LJNYA;LT+;EVOWELx AA;PI;QI;PU;QU;PVOCdIC R;@11D3A;PE;@11D3C;PAI;PO;@11D3F;PAU;
    E=GN kUSVeA;JVISeGA;JNUK>;JCkD+;JHdk>;EVI+MA;EvPw;FA-KeA;@11D50;EDIGIT ZjO;KnE;KTWO;LHvE;
    KFOUR;LIVE;K=X;LEVs;KEf;KNgE;@11D60;0GUNJdA GnDI ,A;MA;LI;MI;LU;MU;@11D67;LEE;LAI;@11D6A;
    LOO;LAU;LYA;LVA;LBA;Mw;LMA;LKA;Mw;L>;Mw;L.;LGA;Mw;LDA;Mw;LNA;LCA;Mw;LT>;Nw;LL.;LJA;Mw;LDDA;
    Nw;LNGA;LPA;Mw;Lw;L+;LSA;EVOWELx AA;PI;QI;PU;QU;@11D90;PEE;PAI;@11D93;POO;PAU;E=GN kUSVeA;
    JVISeGA;EVI+MA;EOM;@11DA0;EDIGIT ZjO;KnE;KTWO;LHvE;KFOUR;LIVE;K=X;LEVs;KEf;KNgE;@11EE0;
    0MAKASe ,KA;FGA;FNGA;FPA;FBA;FMA;F>;FDA;FNA;FCA;FJA;FNYA;FYA;F+;F.;FVA;FSA;FA;8kGKA",
   "8VOWELx I;JU;JE;JO;8PAS=MBkG;8srOFmECtn;@11FB0;0LISU ,Yw;@11FC0;
    0>MIL F+Ctn nyzvE-HUNDvD-kD-TWstEz;JnE-HUNDvD-kD-=XtEz;JEfIEz;J=XTY-FOURz;JF^tEz;
    JzIRTY-SECnD;FzvyEfIEzS;L=XTY-FOURzS;FnyTWstEz;J=XTEsz-1;T2;JTsz;JEfH;FzvyTWstEzS;L=XTEszS;
    FnyFIFz;JQUeTj;JHdF-1;O2;FzvyQUeTjS;FDOWNSCd&FACT^ KIIZH;6=GN NEL;BCEVITU;BAAZwAKKU;BUZwKKU;
    BMUUVUZwKKU;BKURUNI;BPATwKKU;BMUKKURUNI;BKAACU;BPkAM;Cn;BVeAAKk;BPAeAM;BKUZHI;BVELI;
    6WET CULtVAtnx;6DRY CULtVAtnx;6LkDx;6SdT Pkx;6T+DItnd CvDITx;INUMBjx;6CURRsTx;6krODDx;
    6SPsTx;6TOTdx;6g POSSES=nx;6STeT&FROMx;7IGN MUzdIYA;BVAKAIYeAA;@11FFF;6PUNCTUAtn srOF TEXT;
    0CUNEIF^Mx A;G tMES A;NBAD;NGk2 TsU;Nw;NIGI;N.Ge GUNU;NMUSH;NSAG;G2;GB;H tMES ASH2;
    ODUN3 GUNU;OGd;QN2 TsU;Ow;OIGI GUNU;PMg;O.GAB;OS<SH;OU PLUS U PLUS U;IGUNU;H2;I tMES BdAG;
    PGk2 TsU;PMyPLUS s;PSw3;P>K4;GD;GK;H tMES jg2;OSHI> PLUS GISH;GL;H tMES d;ODIM2;OGISH;Ow;
    OKAD3;PI;OS<;OUSH;Hk;HEPH;GMe;J tMESm<;GN;H OVj k;IzvytMES;IPLUS NAGA OPPOS&k PLUS NAGA;
    SSQUeED;HS<;GPg;G+D;J tMES KUR;HKAB;GSd2;HH;I ZIDA TsU;JKABA TsU;
    JOVj ASH TUG2 OVj TUG2 TUG2 OVj TUG2 PAP;SOVj ASH;ZH CROSS&ASH OVj ASH OVj ASH;I2;IGAB;FBA;
    HD;HG3;HHe2;HL;I OVj Bd;IAG;HR;IA2;GI;H tMES A;OGe;OIGI GUNU;GU;H OVj BU AB;QUN;ICROSS&BU;
    HLUG;K OVj BULUG;HR;I2;FDA;HG;I KI=M5 tMES A PLUS MASH;XMe;WBdAG;XI;WGA;Y PLUS MASH;XI;YR2;
    XUD;Ww;WIR;Y PLUS LU;WKAK;W.;XU;Y PLUS MASH2;YM;WNE;WPAP PLUS PAP;W=;W>K4;WU2 PLUS GIR2;XSH;
    HM;HR;IA3;J4;GI;HB;HM;I tMESm<;I2;HN;I KASKd U GUNU DISH;HSH;GU;H OVj DU;IGUNU;IS<SHIG;HB;
    I tMES ESH2;I2;HG;IUD;HH;HN;I3;J GUNU;O GUNU;I4;HR2;FE;G tMES PAP;HOVj yNUN OVj NUN;G2;
    H tMES A PLUS w PLUS DA;OGe;OMI;OSd;P<;OU;GDg;GGIR;GL;GN;H tMES Gk2;S TsU;OME;ICROSS&s;
    IOPPOS&s;ISQUeED;GRs;Hg2;GSH2;GZs;J tMES A;R PLUS Ld;ZL tMES Ld;RN;QBAD;QDUN3 GUNU;Z GUNU;
    Qw;S GUNU;QIGI GUNU;QKASKd;WmQUeED;RU3;Q.;SL tMES Ld;RI;RU;QU2;RD;FGA;H GUNU;H2;
    I tMES A PLUS DA PLUS w;Ww;WIGI;QB2 TsU PLUS >B;QN;QSH;S2 PLUS Gd;PBAD;RR PLUS +;QUR;
    S PLUS +;PDA;QI;RM tMESm<;QUB;PEL;R PLUS .;QN;R tMES Gk2 TsU;PGk2 TsU;RR;QI;R4;S PLUS A;
    RR2 PLUSmU;Pw PLUS LU PLUS ESH2;RL;S PLUS .;QI PLUS LI;QUB2;PIGI GUNU;QSH PLUS HU PLUS ASH;
    PKAK;RSKd;QID;S PLUS Ld;QU3 PLUS k;P.;PMyPLUS s;QI;PNUN;S OVj NUN;PPA;PSd;RR;Q<;S PLUS TUR;
    RID;QUM;P>K4;PU;QD;R PLUS DU;JOVj GA2;HBA;J CROSS&GABA;HD;I OVj GArGe OVj Ge;HL;
    I GArOVj GArGe OVj Ge;IAM;HM;HN;I2;J TsU;KOVj Gk2;KCROSS&Gk2;HR;I3;HSHk;GESHTg;M tMES KUR;
    GI;H tMES E;OU;ICROSS&GI;H4;I OVj GI4;JCROSS&GI4;HDIM;HR2;J GUNU;I3;J tMES A PLUS IGI;
    QGk2 TsU;QIGI;QLU PLUS IGI;QPA;HSd;IH;J CROSS&GISH;KtMES BAD;Q>K4;LsU;GU;H CROSS&GU;H2;
    I tMES KAK;S tMES IGI GUNU;PNUN;PSd PLUS TUG2;JGUNU;HD;I tMES A PLUS KUR;PKUR;JOVj GUrLUGd;
    HL;HM;I tMESm<;HR;I7;IUN;JSH;Fw;H TsU;IGUNU;HL;GI;H tMES ASH;R2;OBAD;ODISH;OGAD;OKg;ONUN;
    OS<;OU;GU;HB2;J tMES k;QHd;QKASKd;QLISH;QUD;HL2;FI;G A;GB;GDIM;J OVj IDIM BUR;USQUeED;GG;HI;
    I DIB;JRI;JOVj IGImHIR OVjmHIR UrOVj UD;JGUNU;GL;H tMES Gk2 TsU;H2;GM;H tMES >K4;ICROSS&IM;
    IOPPOS&IM;ISQUeED;Hg;GN;GR;GSH;FKA;H tMES A;PD;Q PLUS KU3;PSH2;OBAD;Q.G;QR;PI;Ojg2;PSH2;OGA;
    QL;QN2 TsU;QR;R PLUSmw3 PLUS A;PI;QR2;QSH PLUSme;TCROSS&GISH;PU;QR7;OIGI;PM;OKAK;PI;QD;OLI;
    PU;OME;Q PLUS DU;WGI;WTE;PI;Q PLUS NUNUZ;ONE;PUN;OPI;ORU;OSA;QR;Pw;QE;QID;QU;PIG;PUHUR;OTe;
    OU;P2;PD;PMUM tMES PA;PSH;OZI;H2;I CROSS&KA2;HB;HD2;I3;I4;I5;J OVj KAD5;HK;I tMES IGI GUNU;
    HL;I tMES BAD;JCROSS&Kd;HM2;I4;HSKd;L .GAB tMES U OVj .GAB tMES U;
    MOVj KASKd .GAB tMES U OVj .GAB tMES U;GESH2;GI;H tMES BAD;OU;PD;HD;HN;HSd;IH;IIM5;
    L OVj KI=M5;GU;H OVj HI tMES ASH2 KU OVj HI tMES ASH2;H3;H4;I VeIkTh;H7;HL;I GUNU;HN;HR",
   "I OPPOS&KUR;HSHU2;GWU318;F.;HGAB;K tMES A;S PLUS DA PLUS w;YGe;YLd;SL;SN;SSH ZIDA TsU;RBAD;
    SI;RDe;Rs;RGA;TR;SUD;U PLUS GUD;Rw;TL;SI tMES NUN;RIGI GUNU;SM;T PLUS w;ZLU;RKI;TN;SU3;TL;
    U PLUS HI PLUS A;R.GAB;SISH;SU;TL;RME;T PLUS s;SUSH;RNE;RSHyPLUSmUM;TI> PLUS GISH PLUS jg2;
    ZUS GISH TsU;TU2;V PLUSmHU2;SUM;R>G;TK4;SyPLUS A PLUSmU PLUS NA;RU;S PLUS A;YU PLUS U;
    S2 PLUS ASH;SD;SSH;LSQUeED;JR;K tMESm<;U PLUSmUM;LGUNU;P OVj .Ge GUNUm<;HHSHU;HL;I tMES Ld;
    HM;I tMES KUR;S PLUS RU;GI;HL;HMMU2;HSH;GU;H tMES BAD;H2;I tMES d;PBAD;PESH2;T TsU;PGk2 TsU;
    PHI tMES BAD;PIM;PKAD2;S3;T PLUS ASH;QI;P. PLUS ASH;RGAB;PMyPLUS s;PNE;QU;P= PLUS ASH;
    RK2 PLUS BU;PTUG2;KsU;JCROSS&LU2;JOPPOS&LU2;JSQUeED;K<SHIG;H3;HGd;K OVj LUGd;MPPOS&LUGd;
    LS<SHIG;HH;HL;HM;I OVj LUM;R Ge OVj Ge;FMA;H tMES >K4;IGUNU;H2;HH;HR;HSH;J2;GE;HS;GI;HN;GU;
    H OVj MU;HG;I GUNU;HNSUB;HRGU2;HSH;J tMES A;QKUR;QZA;KOVj MUSH;T tMES A PLUS NA;KCROSS&MUSH;
    J3;K tMES A;S PLUS DI;RDI;LGUNU;FNA;H2;HGA;J gVjTED;KtMESmHU TsU;KOPPOS&NAGA;JR;HM NUtLLU;
    HM;I2;GE;H tMES A;OUD;IS<SHIG;GI;H tMES E;H2;HM;I tMES Gk2 TsU;RR PLUS Gk2 TsU;HNDA2;
    L tMES k;TSH;V PLUS ASH;SGUD;SMyPLUS Gk2 TsU;SNE;TUN;SS<;V PLUS A k;ZS ASH;ZS ASH PLUS ASH;
    SU2 PLUS ASH;TSH;HSAG;GU;H11;HN;I .Ge tMES Ge;VMASH;VSd;Y OVj NUN .Ge tMESmd;VUSH;JTsU;
    JOVj NUN;JCROSS&NUN;V .Ge OVj .Ge;IUZ;K AB2 tMES ASHGAB;VBI;VDUG;VGUD;VIGI GUNU;VKAD3;V.;
    VNE;V=.3;VU2;LKI=M5 tMES BI;ZI U;FPA;HD;HN;HP;GESH2;GI;H tMES A;PB;OBI;PU;OE;OI;PB;OU;P2;
    ICROSS&PI;HRIG;K tMES Kd;RUD;RZA;LOPPOS&PIRIG;F+;HB;GI;GU;FSA;HG NUtLLU;HG;I tMES A;PDU;RB;
    Pw;PKAK;QUR;PLUM;PMI;PNUN;PSd;QHID;P>B;PU2;QB;QM;QR;QSH;JOVjmAG;JGUNU;HL;I .GAB tMES ASH2;
    HNGA2;HR;Gw;I3;J tMES A;QBAD;QGISH;QNE;QSHU2;QTUR;QU;R PLUS A;I6;IB6;IR2;HE;I HU;
    JOVjmHyGArOVj GArGe OVj Ge;S>B OVj >B Ge OVj Ge;IG9;IN;ISH;K2;K.M;HID;J tMES A;QIM;IM;
    J tMES A;QBd;RULUG;QDg;QGe;QIGI;T GUNU;QKUSHU2;QLUL;QMUG;QSd;INIG;IR;J TsU;
    KOVjmHIR BUR OVj BUR;I>;HU;I OVj gVjTEDmHU;I2;IBUR;GI;H GUNU;HG;I4;J OVjmIG4mHU2;HK2;H.3;GU;
    H OVjmU;HD;I2;HHUR;HM;IASH;HR;I9;F>;H ASTjISK;ItMES HI;OMI;IGUNU;HB;
    I OVj >B NI OVj NI DISH OVj DISH;JSQUeED;HG;I tMES BI;PGUD;PS<;RU;PTUG2;PUD;HK4;HR;GE;
    H GUNU;GI;H TsU;HL;HR;I tMES >K4;JOVj tR;R GArOVj GArGe OVj Ge;GU;HG2;HK;HM;HR;
    I OVj TUR ZA OVj ZA;FU;G GUD;HU U;HOVj U PA OVj PA Ge OVj Ge;OSUR OVjmUR;
    OU vVjSErOVj U vVjSED;G2;GB;GD;H KUSHU2;ItMES BAD;OMI;OU PLUS U PLUS U;ZUS U GUNU;IGUNU;
    IS<SHIG;P tMES BAD;HUG;GM;H tMES .GAB;OMyPLUS DA;OSw3;OU;HBg;HUM;J tMES KASKd;QPA;GN;H GUNU;
    GR;H CROSS&UR;IS<SHIG;H2;I tMES A PLUS w;WNA;QL;Pw;PNUN;PU2;R PLUS ASH;XBI;H4;HI;I3;HU;
    I tMES A;QSHGAB;PBe;PDUN;PGA;RL;RN2 TsU;RR;QU;Pw;PIGI;QM;QSH;PKI;PLUM;PMg;PPA;PS<;QIG4;PTU;
    PU PLUS GUD;QD;QRUDA;IDA;K tMES U;GSH;I tMES A;PKU;RR;P>K4;IX;I2;IUMX;GTUKI;GZ3;
    I tMES KASKd;HU;FZA;H TsU;ISQUeErtMES KUR;HG;HMX;GE2;GI;H OVj ZI;H3;HB;I KABA TsU;HG;HZ2;GU;
    H5;I tMES A;HBUR;HM;FKAP E.MITE;FAB tMES NUN;H2 tMES A;GMe tMES KUG;
    FDAG KI=M5 tMES U2 PLUS MASH;I3;GISH PLUSmHU;GUB tMESm<;FEZs tMES GUD;QS<;
    FGA2 tMES k PLUS KAK PLUS A;QSH2;GE22;GIG;FHUSH;FKA tMES kS<;PSH3;OGISH;PUD;OHI tMES ASH2;
    OLUM;OPA;OSHUL;OTU;OUR2;F.GAB tMES GI;GU2m<SHIG tMES BAD;JtMES ESH2 PLUS Ld;PSHU;FMESH;
    GUSH3 tMES ZA;FNA4;Gg;I9;IDA2 tMES Bd;SGI;GU11 RO>TErNgETY DEGvES;FPESH2 ASTjISK;GIR2;
    FSAG tMES IGI GUNU;Ft2;FUM tMES ME;G U;@12400;ANUMjICx TWO ASH;OHvyASH;NFOUR ASH;OIVyASH;
    N=X ASH;OEVs ASH;NEf ASH;NNgyASH;NzvyDISH;NFOUR DISH;OIVyDISH;N=X DISH;OEVs DISH;NEf DISH;
    NNgyDISH;NFOUR U;OIVyU;N=X U;OEVs U;NEf U;NNgyU;NnyGESH2;NTWO GESH2;OHvyGESH2;NFOUR GESH2",
   "OIVyGESH2;N=X GESH2;OEVs GESH2;NEf GESH2;NNgyGESH2;NnyGESHU;NTWO GESHU;OHvyGESHU;
    NFOUR GESHU;OIVyGESHU;NTWOmHe2;OHvEmHe2;Y VeIkTh;NFOURmHe2;OIVEmHe2;N=XmHe2;OEVsmHe2;
    NEfmHe2;NNgEmHe2;NnEmHeU;NTWOmHeU;OHvEmHeU;Y VeIkTh;NFOURmHeU;OIVEmHeU;
    NSHe2 tMES Gd PLUS DISH;ZGd PLUS Mg;NnyBURU;NTWO BURU;OHvyBURU;X VeIkTh;NFOUR BURU;OIVyBURU;
    NzvyVeIkTh ESH16;ZTh ESH21;NFOUR VeIkTh LIMMU;Zh LIMMU4;Zh LIMMU A;Zh LIMMU B;
    N=X VeIkTh ASH9;OEVs VeIkTh IMg3;ZTh IMg A;ZTh IMg B;NEf VeIkTh USSU;ZTh USSU3;
    NNgyVeIkTh ILIMMU;Zh ILIMMU3;Zh ILIMMU4;Zh ILIMMU A;NTWO ASH TsU;OHvyASH TsU;NFOUR ASH TsU;
    OIVyASH TsU;N=X ASH TsU;NnyBk2;NTWO Bk2;OHvyBk2;NFOUR Bk2;W VeIkTh;OIVyBk2;W VeIkTh;
    NNIGIDAMg;TESH;NnyES<3;NTWO ES<3;NnyzIRrDISH;NTWO zIRDS DISH;NFIVEmIXzS DISH;
    NnyzIRrVeIkTh A;NTWO zIRDS VeIkTh A;NnyEfH ASH;RQUeTj ASH;OLrASSYRIk nEmIXz;Z nyQUeTj;
    ONyQUeTj GUR;RHdF GUR;NE.MITynyzIRD;VTWO zIRDS;VF^TY;WIFTY;NFOUR U VeIkTh;OIVyU VeIkTh;
    N=X U VeIkTh;OEVs U VeIkTh;NEf U VeIkTh;NNgyU VeIkTh;@12470;
    APUNCTUAtnx OLrASSYRIk W^rDIVIDj;RVjtCd COLn;RDIAGnd COLn;Z TRICOLn;Z QUADCOLn;@12480;
    A=GN AB tMES NUN TsU;OSHU2;GrtMES ESH2;FBArtMES DISH TsU;HHe2 tMES AB2;SNI;SZA;
    GU OVj BU tMES NA2;FDA tMES >K4;HG tMES KUR;GIM tMES IGI;PU U U;I2 tMES UD;GUG tMES kS<;QSH;
    S AT *;PDg;QUN;Pjg2;PGA;QI;RR2 GUNU;RSH;Pw;QI;PIGI GUNU;PKASKd;QUR;RSHU2;V PLUS KASKd;
    P.K-020;RM;S tMES KUR;QUH PLUS GISH;PMASH;QES;QI;PNI;PPI;PS<;QI GUNU;FE2 tMES KUR;OPAP;
    GRg2 X;GSH2 CROSS&ESH2;GZsm<SHIG tMES ASH;YHI;YIGI GUNU;Y.;Zd;YME;ZES;YSU;KtMESmU;
    FGA2 tMES BAHe2;PDIM GUNU;QUG tMES IGI GUNU;ZKASKd;Pjs;PGA;RR PLUS DI;YNE;Pw PLUS A;
    PKUSHU2 PLUS KASKd;P.M;S tMES KUR;QUH;PMUSH;PNE;R PLUS E2;XGI;PSHIM;PZIZ2;
    HBA RO>TErNgETY DEGvES;GESHTg tMES U;GISH tMES GISH CROSS&GISH;GU2 tMES IGI GUNU;
    HrPLUS GISH tMES >K4;Fw TsU GUNU;GI tMES ASH OVj HI tMES ASH;FKA tMES BU;OKA;OU U U;PR;
    F.GAB tMES ZU OVj ZU;HK-003;K21;L5;K30;K50;L1;K62;K79 OVj .K-079 GUNU;K80;L1 OVj .K-081;K92;
    J130;K42;J210;L9;K20;L5;L8;K38;K65;L6;J343;L7;L8;K83;L4;K90;J441;L9;M tMES GU;TIGI;
    TPAP PLUS LU3;ZUS PAP PLUS LU3;TU2 PLUS BA;K50;L7;K70;K83;K90;L2;L3;L5;J550;J608;K17;
    M tMES ASH;TBAD;TDUN3 GUNU GUNU;TKU3;T.;TTe;UE;TU2;UD;URUDA;K36;K48;M tMES DUB;TGA;TIGI;
    W GUNU;TNI;TPAP PLUS PAP PLUS LU3;TS<SH PLUS KI;TUD;URUDA;J724;K49;GU2 GUNU tMES ASH;
    JtMES DISH;PHd;PPAP;S PLUS PAP PLUS LU3;P>K4;FMI PLUS ZA7;GUSH OVj MUSH tMES GA;Z KAK;
    FNgDA2 tMES DIM GUNU;SGISH;TUL;SHI;SKESH2;S.K-050;SMASH;SPAP PLUS PAP;SU;T PLUS U;TRUDA;
    FSAG GUNU tMES w;JtMES s;PSHyAT *;P>K4;Gw6 TsU;HyOVjm<;JPLUS HUB2;ONAM2;OSe;
    HU2 PLUS DUG tMES NI;PE2 tMES k;GI tMES >K4;F>K4 PLUSmAG;GUM tMES Gk2 TsU;PzvyDISH;
    FUR2 gVjTED;JtMES UD;HU tMES DeA3;P.K-668;QU3;FZA7;GU OVj ZU PLUSme;H5 tMES zvyDISH TsU;
    @12F90;1YPRO-MgOkx CM001;M2;M4;M5;M6;M7;M8;M9;L10;M1;M2;NB;M3;M5;M7;M9;L21;M3;M4;M5;M6;M7;
    M8;M9;L30;M3;M4;M5;M6;M7;M8;M9;L40;M1;M4;M6;M7;M9;L50;M1;M2;M3;M4;M5;M6;M8;M9;L60;M1;M2;M3;
    M4;M6;M7;M8;M9;L70;M1;M2;M3;M4;M5;NB;M6;M8;M9;L80;M1;M2;M3;M4;M5;M6;M7;M8;M9;L90;M1;M2;M4;
    M5;M6;M7;M8;M9;K100;M1;M2;M3;M4;M5;M7;M8;M9;L10;M2;M4;K301;M2;@13000;0EGYPtk HIjOGLYPH A001;
    N2;N3;N4;N5;OA;N6;OA;OB;N7;N8;N9;M10;N1;N2;N3;N4;OA;N5;N6;N7;OA;N8;N9;M20;N1;N2;N3;N4;N5;N6;
    N7;N8;N9;M30;N1;N2;OA;N3;N4;N5;N6;N7;N8;N9;M40;OA;N1;N2;OA;N3;OA;N4;N5;OA;N6;N7;N8;N9;M50;
    N1;N2;N3;N4;N5;N6;N7;N8;N9;M60;N1;N2;N3;N4;N5;N6;N7;N8;N9;M70;KB001;N2;N3;N4;N5;OA;N6;N7;N8;
    N9;KC001;N2;OA;OB;OC;N3;N4;N5;N6;N7;N8;N9;M10;OA;N1;N2;N3;N4;N5;N6;N7;N8;N9;M20;N1;N2;N3;N4",
   "KD001;N2;N3;N4;N5;N6;N7;N8;OA;N9;M10;N1;N2;N3;N4;N5;N6;N7;N8;N9;M20;N1;N2;N3;N4;N5;N6;N7;OA;
    N8;N9;M30;N1;OA;N2;N3;N4;OA;N5;N6;N7;N8;N9;M40;N1;N2;N3;N4;N5;N6;OA;N7;N8;OA;N9;M50;OA;OB;
    OC;OD;OE;OF;OG;OH;OI;N1;N2;OA;N3;N4;OA;N5;N6;N7;N8;N9;M60;N1;N2;N3;N4;N5;N6;N7;OA;OB;OC;OD;
    OE;OF;OG;OH;KE001;N2;N3;N4;N5;N6;N7;N8;OA;N9;OA;M10;N1;N2;N3;N4;N5;N6;OA;N7;OA;N8;N9;M20;OA;
    N1;N2;N3;N4;N5;N6;N7;N8;OA;N9;M30;N1;N2;N3;N4;OA;N6;N7;N8;KF001;OA;N2;N3;N4;N5;N6;N7;N8;N9;
    M10;N1;N2;N3;OA;N4;N5;N6;N7;N8;N9;M20;N1;OA;N2;N3;N4;N5;N6;N7;N8;N9;M30;N1;OA;N2;N3;N4;N5;
    N6;N7;OA;N8;OA;N9;M40;N1;N2;N3;N4;N5;OA;N6;OA;N7;OA;N8;N9;M50;N1;OA;OB;OC;N2;N3;KG001;N2;N3;
    N4;N5;N6;OA;N7;OA;OB;N8;N9;M10;N1;OA;N2;N3;N4;N5;N6;N7;N8;N9;M20;OA;N1;N2;N3;N4;N5;N6;OA;N7;
    N8;N9;M30;N1;N2;N3;N4;N5;N6;OA;N7;OA;N8;N9;M40;N1;N2;N3;OA;N4;N5;OA;N6;N7;N8;N9;M50;N1;N2;
    N3;N4;KH001;N2;N3;N4;N5;N6;OA;N7;N8;KI001;N2;N3;N4;N5;OA;N6;N7;N8;N9;OA;M10;OA;N1;OA;N2;N3;
    N4;N5;KK001;N2;N3;N4;N5;N6;N7;N8;KL001;N2;OA;N3;N4;N5;N6;OA;N7;N8;KM001;OA;OB;N2;N3;OA;N4;
    N5;N6;N7;N8;N9;M10;OA;N1;N2;OA;OB;OC;OD;OE;OF;OG;OH;N3;N4;N5;OA;N6;OA;N7;OA;N8;N9;M20;N1;N2;
    OA;N3;N4;OA;N5;N6;N7;N8;OA;N9;M30;N1;OA;N2;N3;OA;OB;N4;N5;N6;N7;N8;N9;M40;OA;N1;N2;N3;N4;
    KN001;N2;N3;N4;N5;N6;N7;N8;N9;M10;N1;N2;N3;N4;N5;N6;N7;N8;OA;OB;N9;M20;N1;N2;N3;N4;N5;OA;N6;
    N7;N8;N9;M30;N1;N2;N3;OA;N4;OA;N5;OA;N6;N7;OA;N8;N9;M40;N1;N2;LL001;O2;O3;O4;O5;PA;O6;O7;O8;
    O9;N10;O1;O2;O3;O4;O5;O6;O7;PA;O8;O9;N20;LU001;O2;O3;O4;O5;O6;O7;O8;O9;N10;PA;O1;PA;O2;O3;
    O4;O5;O6;O7;O8;PA;O9;N20;O1;O2;PA;KO001;OA;N2;N3;N4;N5;OA;N6;OA;OB;OC;OD;OE;OF;N7;N8;N9;M10;
    OA;OB;OC;N1;N2;N3;N4;N5;N6;N7;N8;N9;OA;M20;OA;N1;N2;N3;N4;OA;N5;OA;N6;N7;N8;N9;OA;M30;OA;N1;
    N2;N3;OA;N4;N5;N6;OA;OB;OC;OD;N7;N8;N9;M40;N1;N2;N3;N4;N5;N6;N7;N8;N9;M50;OA;OB;N1;KP001;OA;
    N2;N3;OA;N4;N5;N6;N7;N8;N9;M10;N1;KQ001;N2;N3;N4;N5;N6;N7;KR001;N2;OA;N3;OA;OB;N4;N5;N6;N7;
    N8;N9;M10;OA;N1;N2;N3;N4;N5;N6;OA;N7;N8;N9;M20;N1;N2;N3;N4;N5;N6;N7;N8;N9;KS001;N2;OA;N3;N4;
    N5;N6;OA;N7;N8;N9;M10;N1;N2;N3;N4;OA;OB;N5;N6;N7;OA;N8;N9;M20;N1;N2;N3;N4;N5;N6;OA;OB;N7;N8;
    N9;M30;N1;N2;N3;N4;N5;OA;N6;N7;N8;N9;M40;N1;N2;N3;N4;N5;N6;KT001;N2;N3;OA;N4;N5;N6;N7;OA;N8;
    OA;N9;OA;M10;N1;OA;N2;N3;N4;N5;N6;OA;N7;N8;N9;M20;N1;N2;N3;N4;N5;N6;N7;N8;N9;M30;N1;N2;OA;
    N3;OA;N4;N5;N6;KU001;N2;N3;N4;N5;N6;OA;OB;N7;N8;N9;M10;N1;N2;N3;N4;N5;N6;N7;N8;N9;M20;N1;N2;
    N3;OA;N4;N5;N6;N7;N8;N9;OA;M30;N1;N2;OA;N3;N4;N5;N6;N7;N8;N9;M40;N1;N2;KV001;OA;OB;OC;OD;OE;
    OF;OG;OH;OI;N2;OA;N3;N4;N5;N6;N7;OA;OB;N8;N9;M10;N1;OA;OB;OC;N2;OA;OB;N3;N4;N5;N6;N7;N8;N9;
    M20;OA;OB;OC;OD;OE;OF;OG;OH;OI;OJ;OK;OL;N1;N2;N3;OA;N4;N5;N6;N7;N8;OA;N9;OA;M30;OA;N1;OA;N2;
    N3;OA;N4;N5;N6;N7;OA;N8;N9;M40;OA;KW001;N2;N3;OA;N4;N5;N6;N7;N8;N9;OA;M10;OA;N1;N2;N3;N4;OA;
    N5;N6;N7;OA;N8;OA;N9;M20;N1;N2;N3;N4;OA;N5;KX001;N2;N3;N4;OA;OB;N5;N6;OA;N7;N8;OA;KY001;OA;
    N2;N3;N4;N5;N6;N7;N8;KZ001;N2;OA;OB;OC;OD;N3;OA;OB;N4;OA;N5;OA;N6;N7;N8;N9;M10;N1;N2;N3;N4;
    N5;OA;OB;OC;OD;OE;OF;OG;OH;OI;N6;OA;OB;OC;OD;OE;OF;OG;OH;KAA001;O2;O3;O4;O5;O6;O7;PA;PB;O8;
    O9;N10;O1;O2;O3;O4;O5;O6;O7;O8;O9;N20;O1;O2;O3;O4;O5;O6;O7;O8;O9;N30;O1;O2;@13430;
    KVjtCd JOgj;KH^IZnTd JOgj;KgSjT AT TOPmTeT;UBOTTOMmTeT;UTOP sD;UBOTTOM sD;KOVj.Y MIDDi;
    KBEGgmEGMsT;KsDmEGMsT;@14400;0kATOLIk HIjOGLYPH A001;O2;O3;O4;O5;O6;O7;O8;O9;N10;PA;O1;O2;
    O3;O4;O5;O6;O7;O8;O9;N20;O1;O2;O3;O4;O5;O6;PA;O7;O8;O9;N30;O1;O2;O3;O4;O5;O6;O7;O8;O9;PA;
    N40;O1;PA;O2;O3;O4;O5;PA;O6;PA;PB;O7;O8;O9;N50;O1;O2;O3;O4;O5;O6;O7;O8;O9;N60;O1;O2;O3;O4;
    O5;O6;PA;PB;PC;O7;O8;O9;N70;O1;O2;O3;O4;O5;O6;O7;O8;O9;N80;O1;O2;O3;O4;O5;O6;O7;O8;O9;N90;
    O1;O2;O3;O4;O5;O6;O7;PA;O8;PA;O9;M100;PA;O1;PA;O2;PA;O3;O4;PA;PB;PC;O5;PA;PB;O6;O7;PA;PB;PC;
    O8;O9;N10;PA;PB;O1;O2;O3;O4;O5;PA;O6;O7;O8;O9;N20;O1;O2;O3;O4;O5;PA;O6;O7;O8;O9;N30;O1;O2",
   "O3;O4;O5;PA;O6;O7;O8;O9;N40;O1;O2;O3;O4;O5;O6;O7;O8;O9;N50;O1;O2;O3;O4;O5;O6;O7;O8;O9;N60;
    O1;O2;O3;O4;O5;O6;O7;O8;O9;N70;O1;O2;O3;O4;O5;O6;O7;O8;O9;N80;O1;O2;O3;O4;O5;O6;O7;O8;O9;
    N90;O1;O2;O3;O4;O5;O6;O7;O8;O9;M200;O1;O2;PA;PB;O3;O4;O5;O6;O7;PA;O8;O9;PA;N10;O1;O2;O3;O4;
    O5;PA;O6;PA;O7;O8;O9;N20;O1;O2;O3;O4;O5;O6;O7;PA;O8;O9;N30;O1;O2;O3;O4;O5;O6;O7;O8;O9;N40;
    O1;O2;O3;O4;O5;O6;O7;O8;O9;N50;O1;O2;O3;O4;O5;O6;O7;O8;O9;N60;O1;O2;O3;O4;O5;O6;O7;PA;O8;O9;
    N70;O1;O2;O3;O4;O5;O6;O7;O8;O9;N80;O1;O2;O3;O4;O5;O6;O7;O8;O9;PA;N90;O1;O2;O3;O4;PA;O5;O6;
    O7;O8;O9;PA;M300;O1;O2;O3;O4;O5;O6;O7;O8;O9;PA;N10;O1;O2;O3;O4;O5;O6;O7;O8;O9;N20;O1;O2;O3;
    O4;O5;O6;O7;O8;O9;PA;N30;O1;O2A;PB;PC;O3;O4;O5;O6;PA;PB;PC;O7;O8;O9;N40;O1;O2;O3;O4;O5;O6;
    O7;O8;O9;N50;O1;O2;O3;O4;O5;O6;O7;O8;O9;PA;N60;O1;O2;O3;O4;PA;O5;O6;O7;O8;PA;O9;N70;O1;PA;
    O2;O3;O4;O5;O6;O7;O8;O9;N80;O1;PA;O2;O3 + ^ RI;PA;O4;O5;O6;PA;O7;O8;O9;N90;O1;O2;O3 Ef;O4;
    O5;O6;O7;O8;O9;M400;O1;O2;O3;O4;O5;O6;O7;O8;O9;N10 BEGg LOGOG+M MeK;PA srLOGOG+M MeK;O1;O2;
    O3;O4;O5;O6;O7;O8;O9;N20;O1;O2;O3;O4;O5;O6;O7;O8;O9;N30;O1;O2;O3;O4;O5;O6;O7;O8;O9;N40;O1;
    O2;O3;O4;O5;O6;O7;O8;O9;N50;PA;O1;O2;O3;O4;O5;O6;O7;PA;O8;O9;N60;O1;O2;O3;O4;O5;O6;O7;O8;O9;
    N70;O1;O2;O3;O4;O5;O6;O7;O8;O9;N80;O1;O2;O3;O4;O5;O6;O7;O8;O9;N90;O1;O2;O3;O4;O5;O6;O7;M501;
    O2;O3;O4;O5;O6;O7;O8;O9;N10;O1;O2;O3;O4;O5;O6;O7;O8;O9;N20;O1;O2;O3;O4;O5;O6;O7;O8;O9;N30;
    @16800;0BAMUM ,PwSE-A NGKUyMFn;LGBIEyFn;LPn MFn PIPAEMGBIEE;ZMBA;LNAA MFn;LSHUsSHUET;
    Lt> MFn;LNZA MFn;LSHgDA PA NJI;LPn PA NJI PIPAEMGBIEE;ZAEMBA;LMAEMBGBIEE;LTU MAEMBA;LNGkGU;
    LMAEMVEUX;NNSUAE;MVEUAsGAM;LSEUNYAM;LNTOQPs;LKEUKEUTNDA;LNKgDI;LSUU;LNGKUsZEUM;L.PAQ;
    MET KUT;LN>P MFAA;LMAEKEUP;LPASwE;LG<UAjAE;LPAMSwE;LMn NGGEUAET;LNZUN MEUT;LU YUQ NAE;
    LG<UAEG<UAE;LN>P N>A;L=SA;LMGBASA;MEUNJOMNDEUQ;MOOMPUQ;LKAFA;LPA ijAEWA;LNDA ijAEWA;LPET;
    LMAEMKPs;LNIKA;LPUP;LTUAEP;LLUAEP;LSnJAM;LTEUTEUWs;LMAsYI;LKET;LNDAkGGEUAET;LKUOQ;LMOOMEUT;
    LSHUM;LLOMMAE;LFIRI;LROM;LKPOQ;LSOQ;LMAP PIEET;LSHI+E;LN>P;LSHOQ NSHUT YUM;LNYIT MnGKEUAEQ;
    LPAeAE;LNKAeAE;LUNKNOWN;LNGGs;LMAE=;LNJAM;LMBkYI;LNYET;LTEUAs;LSOT;LPAAM;LNSHIEE;LMAEM;LNYI;
    LKAQ;LNSw;LVEE;LLU;LNs;MAQ;LMBAQ;JB NSHUET;LTU MAEMGBIEE;L=EE;MET TU;LLOM NTEUM;LMBA MAEiE;
    LKIEEM;LYEU+E;LMBAeAE;LKAM;LPEESHI;LYAFU ijAEWA;L.M NSHUT NYAM;LNtEEm<UOQ;MDU NJAA;
    LG<UG<UAEM;LPIT;LTU N=EE;LS<T NJAQ;OUAEQTU;LMFn TEUAEQ;MBIT MBAAKET;LNYI NTEUM;LKEUPUQ;
    LG<UGHs;LKEUYEUX;L.kAE;LPeUM;LVEUM;LNGKgDI MVOP;NGEU MBU;LWUAET;LSAKEUAE;L>AM;LMEUQ;LNGGUOQ;
    R LeGE;LMFIYAQ;LSUE;LMBEURI;MntEs;LNYAEMAE;LPUNGAAM;LMEUT NGGEET;LFEUX;LMBUOQ;LFEE;LKEUAEM;
    LMA NJEUAsA;QUQA;LiT;LNGGAAM;MSs;LMA;LKIQ;LNGOM;JC NGKUyMAEMBA;MZA;LYUM;LWkGKUOQ;LNGGs;
    MDEUAjEE;MGKAQ;LGHeAE;LMBEEKEET;LGBAYI;LNYIR MKPeAQ MEUN;MTU MBIT;LMBEUM;LPIRIEs;LNDOMBU;
    LMBAA CABBAGE-TvE;LKEUS<UAEP;LGwP;LKEUKAQ;LYU MUOMAE;LNZEUM;LMBUE;LNSEUAs;LMBIT;LYEUQ;
    LKPeAQ;MAA;LSEUX;LNDIDA;L>ASwE;LNJUEQ;Lt> YUE;LSUAET;LNGGUAs NYAM;LVEUX;LNkSkAQ;LMA KEUAjI;
    LN>A;MGGUn;L.P;LMBIRIEs;MGBASAQ;LNTEUNGBA;LTEUTEUX;LNGGUM;LFUE;LNDEUT;MSA;NwQ;LBUNG;
    LVEUAEPs;LMBjAE;LRU;LNJAEM;L.M;LtTUAEP;LNSUOT NGOM;MJEEEE;LKET;LNGGU;LMAE=;MBUAEM;LLU;LKUT;
    LNJAM;MGOM;LWUP;LNGGUEET;MSOM;MTs;LKUOP NKAeAE;LNSUN;MDAM;LMA N=EE;LYAA;LNDAP;LSHUEQ;METFn;
    LMBI;MAEMBA;MBkYI;LKEUSEUX;LMBEUX;LKEUM;LMBAA PICKET;LYUWOQ;LNJEUX;LMIEE;MUAE;LSHIQ;LKs .W;
    PFAtGUE;LNGAQ;MAQ;LLIQ;LPg;Ms;LTET;JrMBUO;LWAP;LNJI;LMFn;LNJIEE;LLIEE;LNJEUT;MS<E;MGGAAMAE;
    MYAM;LWUAs;LNGKUN;LS<E;LNGKAP;LKEUAETMEUN;LTEUT;LS<UAE;LNJAP;LSUE;LKET;LYAEMMAE;LKUOM;LSAP;
    LMFEUT;LNDEUX;LMdEjI;MEUT;LSEUAEQ;LYs;LNJEUAEM;LKEUOT MBUAE;LNGKEURI;LTU;LGwA;LNGKYEE;
    LFEUFEUAET;LNDEE;LMGBOFUM;LiUAEP;LNDn;LMnI;MGBEUN;LPUUT;LMGBIEE;MFO;LLUM;LN=EEP;LMBAA",
   "LKWAET;LNYET;LTEUAs;LSOT;LYUWOQ;LKEUM;L+EM;LTEEEE;LNGKEUAEQ;LMFEUAE;LN=EET;LKEUP;LPIP;MEU>E;
    LNYUE;LiT;LNGGAAM;LMFIEE;LNGGWAs;LYUOM;LPAP;LYUOP;LNDAM;MTEUM;LSUAE;LKUN;LNGGEUX;NKIEE;
    LTUOT;LMEUN;LKUQ;LNSUM;LTEUN;LMAsJET;LNGGAP;LiUM;LNGGUOM;MSHUT;MJUEQ;LG<UAE;LKU;LRs OLD;L>E;
    MOQ;LNYI;LRII;LiEEE;LMEEEE;LM;LSUU;LMU;LSHII;NEUX;LKYEE;LNU;LSHU;LNTEE;LPEE;LNI;LSHOQ;LPUQ;
    LMVOP;LLOQ;LRs MUCH;Lt;LNTUU;LMBAAmEVs;LSAQ;LFAA;JyNDAP;LTOn;LMBEUM;L.P;LVOM;LLOn;LPAA;LSOM;
    L+Q;LNSHUOP;MDUN;LPUAE;L>M;LNGKA;LKPEUX;LWUO;LSEE;LNGGEUAET;LPAAM;LTOO;LKUOP;LLOM;LNSHIEE;
    MGOP;LMAEM;LNGKEUX;NOQ;MSHUE;LRIMGBA;LNJEUX;LPEEM;LSAA;LNGGU+E;LMGBA;LG<UX;LNGKEUAEM;
    MJAEMLI;LMAP;LLOOT;LNGGEEEE;MDIQ;L>s NTEUM;LSET;LPUM;LNDAAmOFTNESS;MGGUAESwyNYAM;LYIEE;
    LG<UN;LTUAE;LYEUAE;LPO;LTUMAE;LKEUAE;LSUAs;LTEUAEQ;LVEUAE;LWEUX;L.AM;LPU;L>AQ;LGwAMAE;
    LNGEUvUT;LS<UAEQ;LMGBs;MBEE;LNZAQ;MKOM;LGBET;LTUM;LKUET;LYAP;LNYI CiAVj;LYIT;LMFEUQ;LNDIAQ;
    LPIEEQ;LYUEQ;LiUAEM;LFUE;LGBEUX;LNGKUP;LKET;LMAE;LNGKAAMI;LG<T;LFA;LNTUM;LPEUT;LYEUM;
    LNGGEUAE;MYI BETWEs;MZUQ;LPOn;LMIEE;LFUET;LNAE;LMUAE;LG<UAE;LFU I;LMVI;LPUAQ;LNGKUM;LKUT;
    LPIET;LN>P;LYEUAET;LNGGUP;LPA PEOPi;LFU CdL;MOM;LNJEE;LA;LTOQ;LO;LI;L.Q;LPA PLURd;L>A;NQ;
    LNDAA MY HOUSE;LSHIQ;LYEUX;LNGUAE;LYUAs;MOQmWIMMgG;PCOVj;MUQ;NN;LKEUX;LPEUX;LNJEyEPOCH;LPUE;
    LWUE;LFEE;LVEE;LLU;LMI;LvUX;MAE;LNGUAET;NA;LSHO;OQ;LFU vMEDY;LNA;LPI;LLOQ;LKO;LMs;MA;NQ;
    LTEU;LKI;LMn;LTs;LFAQ;LGHOM;JF KA;LU;LKU;LEE;LvE;L>E;LNYI;L.;LRII;NEE;LMEEEE;L>A;LNDAA;
    MJAEM;LM;LSUU;MHII;MI;MEUX;LKYEE;MET;LNUAE;MU;MJUAE;LYOQ;LSHU;LYA;LNSw;LPEUX;LNTEE;LWUE;
    LPEE;LRU;LNI;LvUX;LKs;LNGKWAs;NGA;LSHO;LPUAE;LFOM;LWA;LLI;MOQ;LKO;LMBs;LRs;LMA;MO;MBAA;LTET;
    LKPA;LSAMBA;LVUEQ;@16A40;0MRO ,>;BNGI;BYO;BMIM;BBA;BDA;BA;BPHI;BKwI;BwO;BDAI;BCHU;BKEAAE;
    BOL;BMAEM;BNg;BPA;BOO;BO;BRO;BSHI;BzEA;BEA;BWA;BE;BKO;BLk;CA;BwI;BRI;BTEK;@16A60;4DIGIT ZjO;
    AnE;ATWO;BHvE;AFOUR;BIVE;A=X;BEVs;AEf;ANgE;@16A6E;5kDA;5OUBi DkDA;0TkGSA ,OZ;FC;FQ;FX;EAZ;
    FC;FQ;FX;EVZ;FC;FQ;FX;EEZ;FC;FQ;FX;EIZ;FC;FQ;FX;EUZ;FC;FQ;FX;EAWZ;GC;GQ;GX;EUIZ;GC;GQ;GX;
    EFgd NG;ELnG UEX;ESH^T UEZ;KAWX;EUEC;GZ;GQ;GX;FIUZ;HC;HQ;HX;EMZ;FC;FQ;FX;EKA;Fw;EGA;ENGA;
    ESA;EYA;EWA;EPA;ENYA;EPw;EBA;EMA;ENA;Ew;E.;EH>;E>;EDA;E+;ENw;ESw;ECA;ETSA;EGw;EHT>;ETw;EXA;
    EFA;EDw;ECw;EZA;@16AC0;7DIGIT ZjO;DnE;DTWO;EHvE;DFOUR;EIVE;D=X;EEVs;DEf;DNgE;@16AD0;
    0BASSA VAH ,sNI;HKA;HSE;HFA;HMBE;HYIE;HGAH;HDHII;HKPAH;HJO;HHWAH;HWA;HZO;HGBU;HDO;HCE;HUWU;
    HTO;HBA;HVU;HYEg;HPA;HWADDA;HA;HO;IO;HU;HEE;HE;HI;@16AF0;ACOMBg&HIGH TnE;KLOW TnE;KMIrTnE;
    KLOW-MIrTnE;KHIGH-LOW TnE;AFULLmTOP;@16B00;0PAwWH HMnG VOWEL KEEB;MV;KIB;LV;KAUB;MV;KUB;LV;
    KEB;LV;KAIB;MV;KOOB;MV;KAWB;MV;KUAB;MV;KOB;LV;KIAB;MV;KAB;LV;KWB;LV;KAAB;MV;DCnSnkT VAU;
    NNTSAU;N.U;NwU;NN.U;N+U;NNKAU;NQwU;NYAU;NH.U;NMAU;NCwU;NNCwU;NHNAU;NPLwU;NNTwU;OAU;NAU;NXAU;
    NCAU;DMeK CIM TUB;MSO;MKES;NwV;MSUAM;MHOM;M>UM;D=GN VOS zOM;NSwB CEEB;ICIM C<EM;IVOS zIAB;
    MFEEM;IXYEEM NTXIV;ORHO;OTOV;OFAIB;IVOSmEEV;IMEEJmUAB;IVOS NRUA;IIB YAM;IXAUS;ICIM TSOV ROG;
    @16B50;DDIGIT ZjO;JnE;JTWO;KHvE;JFOUR;KIVE;J=X;KEVs;JEf;JNgE;@16B5B;DNUMBj TsS;KHUNDvDS;
    KTs zOUSkDS;KMILLInS;KHUNDvrMILLInS;KTs BILLInS;LRILLInS;@16B63;D=GN VOS LUB;IXYOO;IHLI;
    IzIRD-S>GyHLI;IZWJ TwJ;IHNUB;INQIG;IXIAB;INTUJ;IAV;ITX<EJ CEEV;IMEEJ TSEEB;I>U;ILOS;IMUS;
    ICIM wIS LUS NTOG NTOG;MCUAM TSHOOJ;MTXWV;Q CHWV;MPUB DAWB;MNvS TOS;@16B7D;DCLkx TS<EJ;
    NYEEG;NLIS;OAUJ;NXYOOJ;NKOO;NwWJ;NMUAS;NzOJ;OSAB;NPwB;NKwB;NwM;NVAJ;NFAJ;NYAJ;NTSWB;NKWM;
    NVWJ;@16E40;0MEDEFAIDRg caM;RS;RV;RW;RAtU;RZ;RKP;RP;RT;RG;RF;RI;RK;RA;RJ;RE;RB;RC;RU;RYU;RL;
    RQ;RHP;RNY;RX;RD;ROE;RN;RR;RO;RAI;RY;CqM;PS;PV;PW;PAtU;PZ;PKP;PP;PT;PG;PF;PI;PK;PA;PJ;PE;PB;
    PC;PU;PYU;PL;PQ;PHP;PNY;PX;PD;POE;PN;PR;PO;PAI;PY;CDIGIT ZjO;InE;ITWO;JHvE;IFOUR;JIVE;I=X",
   "JEVs;IEf;INgE;CNUMBj Ts;JEiVs;JTWELVE;KHIRTEs;JFOURTEs;KIFTEs;J=XTEs;KEVsTEs;JEfEs;JNgETEs;
    CDIGIT nydTjNATEh;ITWO dTjNATEh;JHvydTjNATEh;CCOMMA;CFULLmTOP;CSYMBOL AIVA;CEXC.MAtn OH;
    @16F00;1IAO ,PA;CBA;CYI PA;CP.;CMA;Dw;CeCwIC MA;CFA;CVA;DFA;C>;CDA;CYI T>;GA;CT>;CDDA;CNA;
    Dw;CYI NNA;CeCwIC NA;CNNA;Ew;C.;DYA;Dw;EYA;CTLw;CDLw;CTLHYA;CDLHYA;CKA;CGA;CYI KA;CQA;DGA;
    CNGA;Ew;CeCwIC NGA;Cw;CXA;CGw;Ew;CTSSA;CDZZA;CNYA;Ew;CTSw;CDZw;CYI TSw;FDZw;CvF^MErTSw;CSw;
    DSA;CZw;DSw;CTSA;CDZA;CYI TSA;CSA;CZA;DSA;DZA;ESA;CeCwIC ZZA;CZZYA;ESYA;CWA;CAH;CHw;CBRI;
    CSYI;CDZYI;CTE;DSE;CRTE;@16F4F;5=GN CnSnkT MODIFIj Be;5,NASdIZAtn;5=GN ASPI+tn;
    AvF^MErVOICgG;JASPI+tn;5VOWELx A;HA;HHH;HN;IG;GO;HO;GWO;GW;GE;HN;IG;GOEY;GI;HA;IN;JG;HO;HE;
    HI;HU;HNG;GU;HA;IN;JG;HU;HEI;HNG;GY;HI;GAE;IE;GjR;GROUNDErjR;Gj;GROUNDErj;GAI;GEI;GAU;GOU;
    GN;HG;GUOG;GYUI;GOG;Hj;GVW;GIG;GEA;GInG;GUI;@16F8F;5TnyRf;ATOP Rf;AABOVE;A!;5,TnE-2;H3;H4;
    H5;H6;H7;H8;CvF^MErTnE-1;Q2;Q4;Q5;Q6;Q8;@16FE0;0TkGUT ITjAtn MeK;0NUSHU ITjAtn MeK;
    0OLrCHgESyHOOK MeK;CITjAtn MeK;0KHITkmMdLmCRIPT FILiR;@16FF0;0VIETNAMESydTjNATyvAD&MeK CA;
    YNwY;@18800;0TkGUT COMPnsT-001;J2;J3;J4;J5;J6;J7;J8;J9;I10;J1;J2;J3;J4;J5;J6;J7;J8;J9;I20;
    J1;J2;J3;J4;J5;J6;J7;J8;J9;I30;J1;J2;J3;J4;J5;J6;J7;J8;J9;I40;J1;J2;J3;J4;J5;J6;J7;J8;J9;
    I50;J1;J2;J3;J4;J5;J6;J7;J8;J9;I60;J1;J2;J3;J4;J5;J6;J7;J8;J9;I70;J1;J2;J3;J4;J5;J6;J7;J8;
    J9;I80;J1;J2;J3;J4;J5;J6;J7;J8;J9;I90;J1;J2;J3;J4;J5;J6;J7;J8;J9;H100;J1;J2;J3;J4;J5;J6;J7;
    J8;J9;I10;J1;J2;J3;J4;J5;J6;J7;J8;J9;I20;J1;J2;J3;J4;J5;J6;J7;J8;J9;I30;J1;J2;J3;J4;J5;J6;
    J7;J8;J9;I40;J1;J2;J3;J4;J5;J6;J7;J8;J9;I50;J1;J2;J3;J4;J5;J6;J7;J8;J9;I60;J1;J2;J3;J4;J5;
    J6;J7;J8;J9;I70;J1;J2;J3;J4;J5;J6;J7;J8;J9;I80;J1;J2;J3;J4;J5;J6;J7;J8;J9;I90;J1;J2;J3;J4;
    J5;J6;J7;J8;J9;H200;J1;J2;J3;J4;J5;J6;J7;J8;J9;I10;J1;J2;J3;J4;J5;J6;J7;J8;J9;I20;J1;J2;J3;
    J4;J5;J6;J7;J8;J9;I30;J1;J2;J3;J4;J5;J6;J7;J8;J9;I40;J1;J2;J3;J4;J5;J6;J7;J8;J9;I50;J1;J2;
    J3;J4;J5;J6;J7;J8;J9;I60;J1;J2;J3;J4;J5;J6;J7;J8;J9;I70;J1;J2;J3;J4;J5;J6;J7;J8;J9;I80;J1;
    J2;J3;J4;J5;J6;J7;J8;J9;I90;J1;J2;J3;J4;J5;J6;J7;J8;J9;H300;J1;J2;J3;J4;J5;J6;J7;J8;J9;I10;
    J1;J2;J3;J4;J5;J6;J7;J8;J9;I20;J1;J2;J3;J4;J5;J6;J7;J8;J9;I30;J1;J2;J3;J4;J5;J6;J7;J8;J9;
    I40;J1;J2;J3;J4;J5;J6;J7;J8;J9;I50;J1;J2;J3;J4;J5;J6;J7;J8;J9;I60;J1;J2;J3;J4;J5;J6;J7;J8;
    J9;I70;J1;J2;J3;J4;J5;J6;J7;J8;J9;I80;J1;J2;J3;J4;J5;J6;J7;J8;J9;I90;J1;J2;J3;J4;J5;J6;J7;
    J8;J9;H400;J1;J2;J3;J4;J5;J6;J7;J8;J9;I10;J1;J2;J3;J4;J5;J6;J7;J8;J9;I20;J1;J2;J3;J4;J5;J6;
    J7;J8;J9;I30;J1;J2;J3;J4;J5;J6;J7;J8;J9;I40;J1;J2;J3;J4;J5;J6;J7;J8;J9;I50;J1;J2;J3;J4;J5;
    J6;J7;J8;J9;I60;J1;J2;J3;J4;J5;J6;J7;J8;J9;I70;J1;J2;J3;J4;J5;J6;J7;J8;J9;I80;J1;J2;J3;J4;
    J5;J6;J7;J8;J9;I90;J1;J2;J3;J4;J5;J6;J7;J8;J9;H500;J1;J2;J3;J4;J5;J6;J7;J8;J9;I10;J1;J2;J3;
    J4;J5;J6;J7;J8;J9;I20;J1;J2;J3;J4;J5;J6;J7;J8;J9;I30;J1;J2;J3;J4;J5;J6;J7;J8;J9;I40;J1;J2;
    J3;J4;J5;J6;J7;J8;J9;I50;J1;J2;J3;J4;J5;J6;J7;J8;J9;I60;J1;J2;J3;J4;J5;J6;J7;J8;J9;I70;J1;
    J2;J3;J4;J5;J6;J7;J8;J9;I80;J1;J2;J3;J4;J5;J6;J7;J8;J9;I90;J1;J2;J3;J4;J5;J6;J7;J8;J9;H600;
    J1;J2;J3;J4;J5;J6;J7;J8;J9;I10;J1;J2;J3;J4;J5;J6;J7;J8;J9;I20;J1;J2;J3;J4;J5;J6;J7;J8;J9;
    I30;J1;J2;J3;J4;J5;J6;J7;J8;J9;I40;J1;J2;J3;J4;J5;J6;J7;J8;J9;I50;J1;J2;J3;J4;J5;J6;J7;J8;
    J9;I60;J1;J2;J3;J4;J5;J6;J7;J8;J9;I70;J1;J2;J3;J4;J5;J6;J7;J8;J9;I80;J1;J2;J3;J4;J5;J6;J7;
    J8;J9;I90;J1;J2;J3;J4;J5;J6;J7;J8;J9;H700;J1;J2;J3;J4;J5;J6;J7;J8;J9;I10;J1;J2;J3;J4;J5;J6;
    J7;J8;J9;I20;J1;J2;J3;J4;J5;J6;J7;J8;J9;I30;J1;J2;J3;J4;J5;J6;J7;J8;J9;I40;J1;J2;J3;J4;J5;
    J6;J7;J8;J9;I50;J1;J2;J3;J4;J5;J6;J7;J8;J9;I60;J1;J2;J3;J4;J5;J6;J7;J8;@1AFF0;
    0KA>KkA ,MgNk TnE-2;S3;S4;S5;@1AFF5;S7;S8;NNASdIZErTnE-1;ZNE-2;ZNE-3;ZNE-4;ZNE-5;@1AFFD",
   "ZNE-7;ZNE-8;@1B000;GeCwIC E;0HI+GkA ,eCwIC YE;1s>IGkA ,A-1;K2;K3;KWO;II-1;K2;K3;K4;IU-1;K2;
    K3;K4;K5;IE-2;K3;K4;K5;K6;IO-1;K2;K3;IKA-1;L2;L3;L4;L5;L6;L7;L8;L9;L10;M1;LKE;JI-1;L2;L3;L4;
    L5;L6;L7;L8;JU-1;L2;L3;L4;L5;L6;L7;JE-1;L2;L3;L4;L5;L6;JO-1;L2;L3;LKI;ISA-1;L2;L3;L4;L5;L6;
    L7;L8;JI-1;L2;L3;L4;L5;L6;JU-1;L2;L3;L4;L5;L6;L7;L8;JE-1;L2;L3;L4;L5;JO-1;L2;L3;L4;L5;L6;L7;
    I>-1;L2;L3;L4;JI-1;L2;L3;L4;L5;L6;L7;JU-1;L2;L3;L4;LTO;JE-1;L2;L3;L4;L5;L6;L7;L8;L9;JO-1;L2;
    L3;L4;L5;L6;L+;INA-1;L2;L3;L4;L5;L6;L7;L8;L9;JI-1;L2;L3;L4;L5;L6;L7;LTE;JU-1;L2;L3;JE-1;L2;
    L3;L4;L5;L6;LKO;JO-1;L2;L3;L4;L5;Iw-1;L2;L3;L4;L5;L6;L7;L8;L9;L10;M1;JI-1;L2;L3;L4;L5;L6;L7;
    JU-1;L2;L3;JE-1;L2;L3;L4;L5;L6;L7;JO-1;L2;L3;L4;L5;L6;L7;L8;IMA-1;L2;L3;L4;L5;L6;L7;JI-1;L2;
    L3;L4;L5;L6;L7;JU-1;L2;L3;L4;JE-1;L2;LMA;JO-1;L2;L3;L4;L5;L6;IYA-1;L2;L3;L4;L5;LYO;JU-1;L2;
    L3;L4;JO-1;L2;L3;L4;L5;L6;I+-1;L2;L3;L4;JI-1;L2;L3;L4;L5;L6;L7;JU-1;L2;L3;L4;L5;L6;JE-1;L2;
    L3;L4;JO-1;L2;L3;L4;L5;L6;IWA-1;L2;L3;L4;L5;JI-1;L2;L3;L4;L5;JE-1;L2;L3;L4;JO-1;L2;L3;L4;L5;
    L6;L7;IN-MU-MO-1;Q2;1I+GkA ,eCwIC WU;0KA>KkA ,eCwIC YI;PE;OWU;@1B150;0HI+GkA iTTjmMdL WI;NE;
    NO;@1B164;0KA>KkA iTTjmMdL WI;NE;NO;MN;@1BC00;0DUPLOYk ,H;GX;GP;GT;GF;GK;GL;GB;GD;GV;GG;GR;
    GP N;GDm;GF N;GK M;GRm;Gz;GSLOk DH;GDH;GKK;GSLOk J;GHL;GLH;GRH;GM;GN;GJ;GS;GM N;GN M;GJ M;
    GS J;GMb~;GNb~;GJb~;QS g=DykDo;GSb~;Q !;GMm;GNm;GJm;GSm;GM Nm;GN Mm;GJ Mm;GS Jm;GJmb~;IN;Jm;
    GS T;J R;IP;J R;GTm;IRm;GW;HH;H R;GS N;IM;GK Rm;GG Rm;GS K;J R;GA;GSLOk OW;GOA;GO;GAOU;GI;
    GE;GIE;GSH^T I;GUI;GEE;GSLOk EH;GROMkIk I;GSLOk EE;GLnG I;GYE;GU;GEU;GXW;GU N;GLnG U;
    GROMkIk U;GUH;GSLOk U;GOOH;HW;HU;GWA;HO;HI;HEI;HOW;GNASd U;MO;MI;MA;GPjNg k;OM;GSLOk s;Mk;
    Mn;GVOCdIC M;@1BC70;9AFFIX * H^IZnTdmECkT;FMIrH^IZnTdmECkT;FRf H^IZnTdmECkT;FLOW VjtCdmECkT;
    FMIrVjtCdmECkT;FHIGH VjtCdmECkT;FAT>C<DmECkT;O*-TO-RfmECkT;OTkGsT;QIL;OyHOOK;OI HOOK;
    OTkGsT HOOK;@1BC80;FHIGH ACUTE;KTf ACUTE;KG+VE;KLnG G+VE;K~;K_i;KLgE;KWAVE;KVjtCd;@1BC90;
    FLOW ACUTE;JTf ACUTE;JG+VE;JLnG G+VE;J~;J_i;JLgE;JWAVE;JVjtCd;JeROW;@1BC9C;9=GN ObCROSS;
    9zICK iTTjmEiCT^;9% MeK;9PUNCTUAtn CHgOOK FULLmTOP;0SH^zkDhAT ,OVj.P;HCnTgU&OVj.P;HDOWNmTEP;
    HUPmTEP;@1CF00;0ZNAMsNY COMBg&MeK GO+ZDO NIZKOm KRYZ<M n *;ONIZKOm KRYZ<M n *;OTSA> n *;
    OGO+ZDO NIZKO n *;ONIZKO n *;OSvDNyn *;OMdO POVYSHyn *;OPOVYSHyn *;OVYSOKO n *;
    OMdO POVYS<m KHOKHLOM n *;OPOVYS<m KHOKHLOM n *;OVYSOKOm KHOKHLOM n *;
    OGO+ZDO NIZKOm KRYZ<M n Rf;ONIZKOm KRYZ<M n Rf;OTSA> n Rf;OGO+ZDO NIZKO n Rf;ONIZKO n Rf;
    OSvDNyn Rf;OMdO POVYSHyn Rf;OPOVYSHyn Rf;OVYSOKO n Rf;OMdO POVYS<m KHOKHLOM n Rf;
    OPOVYS<m KHOKHLOM n Rf;OVYSOKOm KHOKHLOM n Rf;OTSA>m KRYZ<M;OMdO POVYS<m KRYZ<M;
    OSTRkNO MdO POVYS<;OPOVYS<m KRYZ<M;XTRkNO;OVYSOKOm KRYZ<M;OMdO POVYS<mTRkNO;OGO+ZDO VYSOKO;
    OZELO;On;O+VNO;OtKwYA;OB^ZAYA;OUDeKA;OPODVjTKA;OLOMKA;OKUPNAYA;PACHKA;OZEVOK;OSKOBA;O+ZSEKA;
    OKRYZH n *;@1CF30;JTnd RkGyMeK M+CHNO;ZmVETLO;Z TvSVETLO;JMeK ZADjZHKA;ODEMESTVsNY ZADjZHKA;
    OOTSECHKA;OPODCwSHIE;YbVjtCdmTROKE;OCwSHKA;V POLNAYA;OOB.CHKO;OS^OCHYA NOZHKA;OTOCHKA;
    ODVOETOCHIE;JAT>CH&VjtCd OMET;JMeK CURVErOMET;OKRYZH;JLOWj Tnd RkGygDICAT^;
    9PRIZNAK MODIFIj iVEL-2;W3;QDIvCtn FLIP;QKRYZH;QROG;@1CF50;9NEUMyKRYUK;K tKHY;FPeAKLIT;
    FDVA V C<LNU;FKLYUCH;FZkOZ<K;FSTOPITSA;Nm OCHKOM;FPjEVODKA;O NEPOSTOYkNAYA;
    FSTOPITSAbS^OCHYA NOZHKA;FC<LYUSTKA;FPdKA;FZAPYA>YA;FGOLUBCHIK B^ZY;PtKHY;PM+CHNY;PSVETLY;
    PTvSVETLY;FV+KHIYA PROS>YA;OM+CHNAYA;OSVET.YA;OTvSVET.YA;OKLYUC<VAYA PROS>YA;Z M+CHNAYA;
    ZmVET.YA;Z TvSVET.YA;F% ZAPYA>YA;FvVjSErC<LYUSTKA;FDjBITSA;FKwMILO;FCwSHKA;FPODCwSHIE;
    FSKAMEYTSA M+CHNAYA;PSVET.YA;PTvSVET.YA;QIKwYA;FDEMESTVsNY KLYUCH",
   "FSKAMEYTSA KLYUC<VAYAmVET.YA;WNEPOSTOYkNAYA;WVAYA tKwYA;PDVOEC<LNAYA PROS>YA;ZYAmVET.YA;
    ZYA NEPOSTOYkNAYA;ZYA KLYUC<VAYA;GLOZHItE;Om ZAPYATOY;PZAKRYTOE;PS KRYZ<M;FKRYZH;FROG;FFI>;
    FKOBY.;FZMEYTSA;FS>TYA;Lm ZAPYATOY;OKRYZ<M;OZAPYATOY I KRYZ<M;OKRYZ<M I ZAPYATOY;MZAKRY>YA;
    Vm ZAPYATOY;MS ROGOM;ODVUMYA ZAPYATYMI;OZAPYATOY I PODCwSHIEM;FPOLKULIZMY;
    FS>TYA NEPOSTOYkNAYA;Hv. PROS>YA;MM+CHNOtKwYA;MKRYZ<VAYA;MPOLUPOVODNAYA;OVODNAYA;
    MNEPOSTOYkNAYA;MKLYUC<POVODNAYA;TNEPOSTOYkNAYA;MtKwYA PUTNAYA;MDVOEC<LNAYA;VOKRYZ<VAYA;
    WPOVODNAYA;VAYA KLYUC<VAYA;VOPOVODNAYA KLYUC<VAYA;MGROMNAYAbSgGi ZAPYA>YA;
    QOPOVODNAYAbSgGi ZAPYA>YA;QNAYA;QOPOVODNAYA;ZAb% ZAPYA>YA;RKRYZ<VAYA;ZYA POVODNAYA;FMECHIK;
    L POVODNY;MKLYUC<VOY;TPOVODNY;TNEPOSTOYkNY;FSTv. TRYASOG.SNAYA;SPOVODNAYA;SSTvLNAYA;FOSOKA;
    KmVET.YA;LTvSVET.YA;LKRYUKOVAYAmVET.YA;MLYUC<VAYAmVET.YA;XNEPOSTOYkNAYA;FSTv. KRYUKOVAYA;
    W POVODNAYA;XGROMNAYAbSgGi ZAPYA>YA;ZOMOPOVODNAYAbSgGi ZAPYA>YA;ZOMNAYA;ZOMOPOVODNAYA;
    ZOMOPOVODNAYAb% ZAPYA>YA;ZOMOKRYZ<VAYA;ZOMOKRYZ<VAYA POVODNAYA;XTRYASKA;FKUFISMA;FOB.KO;
    FDUDA;FNEMKA;FPAUK;@1D000;0BYZkTgyMU=Cd| P=LI;PDASEIA;PPjISPOMsI;POXEIA EKFnItKn;VDIPLI;
    PVeEIA EKFnItKn;WDIPLI;PKAzISt;PSYRMAtKI;PPeAKLItKI;PYPOKRI=S;Y DIPLI;PKvMASt;
    PAPESO EKFnItKn;PEXO EKFnItKn;PTEiIA;PKstMA>;PAPOSTROFOS;Z DIPLI;PSYNEVMA;PzI>;POLIGn eCwIn;
    PG^Gn eCwIn;PP=Ln;PCwMILn;PVAzY;PISn eCwIn;PKstMA eCwIn;W> eCwIn;PSAXIMA>;PPeICHn;
    PS>VROS APODEXIA;POXEIAI eCwIn;PVeEIAI eCwIn;PAPODjMA eCwIn;SzEMA;PK.SMA;PvVMA;
    PPIASMA eCwIn;PTgAGMA;PkATRICHISMA;PSEISMA;QYNAGMA eCwIn;XME>m>VROU;POYRkISMA eCwIn;PzEMA;
    PiMOI;PDYO;PTRIA;QESSjA;PK+tMA>;PAPESO EXO NEO;PFzO+ eCwIn;PIMIFzO+;PTROMIKn eCwIn;
    PKA>VA TROMIKn;PPE.STn;Q=FISTn;PKnTEVMA;PCHOvVMA eCwIn;P+PISMA;PPeAKdESMA eCwIn;
    ULItKI eCwIn;PICwDg;PNkA;PPE>SMA;PKnTEVMA dLO;PTROMIKn dLO;PST+GGISMA>;PGRnzISMA>;PISn NEO;
    POLIGn NEO;QXEIA NEO;PPE>St;PKOUFISMA;PPE>STOKOUFISMA;PK+tMOKOUFISMA;PPE.STn NEO;
    PKstMA> NEO kO;W NEO kO;PYP=LI;PAPOSTROFOS NEO;YImYNDESMOS NEO;PYP^ROI;PK+tMOYP^ROn;PE.FRn;
    PCwMILI;PMIKRn ISn;PVeEIA NEO;PPIASMA NEO;Q=FISTn NEO;POMdn;PktKsOMA;PLYGISMA;
    PPeAKLItKI NEO;UdESMA NEO;PETjn PeAKdESMA;PKYLISMA;PktKsOKYLISMA;PTROMIKn NEO;PEKSTvPTn;
    PSYNAGMA NEO;RRMA;PCHOvVMA NEO;PEPEGjMA;PSEISMA NEO;PXIRn K.SMA;PTROMIKOP=FISTn;
    PP=FISTOLYGISMA;PTROMIKOLYGISMA;WPeAKdESMA;PP=FISTOPeAKdESMA;PTROMIKOSYNAGMA;
    PP=FISTOSYNAGMA;PG^GOSYNzETn;PeGOSYNzETn;PETjn eGOSYNzETn;POYRkISMA NEO;PzEMAtSMOS ESO;
    ZS EXO;U APLOUN;SS KAI APOzES;PKA>VASMA;PsDOFnn;PYFs KATO;UkO;PS>VROS;PK.SMA kO;
    PDIPLI eCwIn;PK+tMA eCwIn;YLLO;XNEO;PAPODjMA NEO;RLI;PDIPLI;PTRIPLI;QET+PLI;PK^nIS;
    PiIMMA sOS CHRnOU;WDYO CHRnn;WTRIn CHRnn;XESSen CHRnn;WIMISEOS CHRnOU;PG^Gn NEO kO;
    WPeEStGMsn eISTjA;ZEStGMsn DEXIA;PDIG^Gn;X PeEStGMsn eISTjA KATO;ZeEStGMsn eISTjA kO;
    ZeEStGMsn DEXIA;PTRIG^Gn;PeGn;PIMIDIeGn;PDIeGn;PAGOGI POLI eGI;VeGOTjI;YI;VMETRIA;X=;VG^GI;
    ZOTjI;VPOLI G^GI;PMeTYRIA PROTOS ICHOS;YdLI PROTOS ICHOS;YDEYTjOS ICHOS;YdLI DEYTjOS ICHOS;
    YTRITOS ICHOS;ZRIFnIAS;ZETeTOS ICHOS;ZETeTOS iGETOS ICHOS;YiGETOS ICHOS;YP.GIOS ICHOS;
    PISAKIA TELOUS ICHIMATOS;PAPOSTROFOI TELOUS ICHIMATOS;PFkjO=S TET+FnIAS;ZMnOFnIAS;ZDIFnIAS;
    PMeTYRIA VeYS ICHOS;YPROTOVeYS ICHOS;Z.GIOS TETeTOS ICHOS;PG^zMIKn N APLOUN;Z N DIPLOUN;
    PseXIS KAI FzO+ VOU;PIMIFnn;Tz^n;PFzO+ eCwIn DEYTjOU ICHOU;WDIATnIKI PA;ZTnIKI NkA;
    WNAOS ICHOS;WDIATnIKI DI;WSKLIRn DIATnn DI;WDIATnIKI KE;ZTnIKI ZO;ZTnIKI NI KATO;
    ZTnIKI NI kO;WMdAKn CHROMA DIFnIAS;ZAKn CHROMA MnOFnIAS;QHTO+mKLIRn CHROMA VA=S",
   "QzO+mKLIRn CHROMAmYNAFI;WNskO;PCHROA ZYGOS;VKLITn;VSPAzI;PFzO+ I YFE=S TETetM^In;
    WseMnIOS ktFnIA;PYFE=S TRItM^In;PDIE=S TRItM^In;XETetM^In;WAPLI DYO DODEKA>;
    WMnOG+MMOS TESSjA DODEKA>;WDIG+MMOS EX DODEKA>;WTRIG+MMOS OKTO DODEKA>;
    PYFE=S APLI DYO DODEKA>;WMnOG+MMOS TESSjA DODEKA>;WDIG+MMOS EX DODEKA>;
    WTRIG+MMOS OKTO DODEKA>;PGsIKI DIE=S;WYFE=S;PDIASTOLI APLI MIKRI;ZPLI MEGdI;YDIPLI;YzESEOS;
    P=Mk=S zESEOS;Z<SEOS DI=MOU;Z<SEOS TRI=MOU;Z<SEOS TET+=MOU;YeSEOS;ZRSEOS DI=MOU;
    ZRSEOS TRI=MOU;ZRSEOS TET+=MOU;PDIG+MMA GG;RFTOGGOS OU;PStGMA;PeKtKO PA;XVOU;XGA;XDI;XKE;
    XZO;XNI;PKstMA> NEO MESO;W NEO MESO;W> NEO KATO;W NEO KATO;Q.SMA KATO;PG^Gn NEO KATO;@1D100;
    0MU=Cd|mgGi BeLgE;F% BeLgE;FFgd BeLgE;FvVjSyFgd BeLgE;FDAS<rBeLgE;FSH^T BeLgE;F* vPEATx;
    FRf vPEATx;GEPEAT ~S;FDdmEGNO;H CAPO;FSEGNO;FCODA;FvPEATErFIGUv-1;V2;V3;FFjMA>;M !;
    FBvAz MeK;FCAESU+;FB+CE;JKET;FnE-LgEm>FF;FTWO-LgEm>FF;GHvE-LgEm>FF;FFOUR-LgEm>FF;
    GIVE-LgEm>FF;F=X-LgEm>FF;JSTR&FvTBOeD;FFOUR-STR&FvTBOeD;FG CiF;L OT>VA d>;TBASSA;FC CiF;
    FF CiF;L OT>VA d>;TBASSA;FDRUM CiF-1;P2;@1D129;FMULtPi MEASUv vST;F%mHeP;MF.T;FF.T UP;KDOWN;
    FNATURd UP;NDOWN;FSHeP UP;LDOWN;FQUeTj TnEmHeP;SF.T;FCOMMn tME;GUT tME;FOT>VA d>;MBASSA;
    FQUgDICE=MA d>;SBASSA;FMULt vST;FWHOi vST;FHdF vST;FQUeTj vST;FEfH vST;F=XTEsz vST;
    FzIRTY-SECnrvST;F=XTY-FOURz vST;FnyHUNDvrTWsTY-EfH vST;FX NOTE<AD;FPLUS NOTE<AD;
    F_i X NOTE<AD;FSQUeyNOTE<ArWHITE;VB.CK;FTRIkGi NOTE<ArUP WHITE;Z B.CK;X* WHITE;ZFT B.CK;
    XRf WHITE;ZGHT B.CK;XDOWN WHITE;ZWN B.CK;XUP Rf WHITE;Z Rf B.CK;FMOn NOTE<ArWHITE;TB.CK;
    FTRIkGi-ROUNrNOTE<ArDOWN WHITE;ZEArDOWN B.CK;FPeszE=S NOTE<AD;FVOIrNOTE<AD;FNOTE<ArB.CK;
    GULL NOTE<AD;FCLUSTj NOTE<ArWHITE;WB.CK;FBvVE;FWHOi NOTE;FHdF NOTE;FQUeTj NOTE;FEfH NOTE;
    F=XTEsz NOTE;FzIRTY-SECnrNOTE;F=XTY-FOURz NOTE;FnyHUNDvrTWsTY-EfH NOTE;FCOMBggGmTEM;
    QPvCHGESkGmTEM;PTvMOLO-1;X2;X3;FFgGjErTvMOLO-1;W2;W3;FCOMBg&AUGMs>tn ~;PF.G-1;U2;U3;U4;U5;
    FBEGg BEAM;FsrBEAM;FBEGg tE;FsrtE;FBEGgmLUR;FsDmLUR;FBEGg PH+SE;FsrPH+SE;FCOMBg&ACCsT;
    PS>CCATO;PTsUTO;PS>CCAtS=MO;PMeCATO;W-S>CCATO;PACCsT-S>CCATO;PLOUv;FePEGGIATO UP;QDOWN;
    FCOMBg&DOIT;PRIP;PFLIP;PSMEe;PBsD;P% TnGUE;PTRIPi TnGUE;FRgF^ZkDO;FSUBITO;FZ;FPIkO;FMEZZO;
    FF^TE;FCvSCsDO;FDECvSCsDO;FG+CyNOTEm.SH;QNOm.SH;FTR;GURN;FgVjTErTURN;FTURNm.SH;KUP;
    F^NAMsTmTROKE-1;V2;V3;V4;V5;V6;V7;V8;V9;V10;W1;FwUPTStMME;FNEBsStMME;FsrOFmtMME;FDEGvEm.SH;
    FCOMBg&DOWN BOW;PUP BOW;PHeMnIC;PSNAP PIZZICATO;FPEDd MeK;LUP MeK;FHdF PEDd MeK;
    FGLISSkDO UP;PDOWN;FWIz FgGjNAILS;FDAMP;J dL;FMAXIMA;FLnGA;FBvVIS;FSEMIBvVIS WHITE;QB.CK;
    FMgIMA;L B.CK;FSEMIMgIMA WHITE;QB.CK;FFUSA WHITE;KB.CK;FLnGA PjFEC> vST;LIMPjFEC> vST;
    FBvVIS vST;FSEMIBvVIS vST;FMgIMA vST;FSEMIMgIMA vST;FTEMPUS PjFECTUM CUM PRO.tnyPjFEC>;
    Z PRO.tnyIMPjFEC>;Z PRO.tnyPjFEC> DIMgUtn-1;MIMPjFECTUM CUM PRO.tnyPjFEC>;
    ZUM PRO.tnyIMPjFEC>;ZUM PRO.tnyIMPjFEC> DIMgUtn-1;ZUM PRO.tnyIMPjFEC> DIMgUtn-2;
    ZUM PRO.tnyIMPjFEC> DIMgUtn-3;FCROIX;FGvG^Ik C CiF;PF CiF;FSQUeyB;FVIRGA;FPODATUS;FCLIVIS;
    FSCkDICUS;FCLIMACUS;FT^CULUS;FP^vCTUS;O FiXUS;FSCkDICUS FiXUS;FT^CULUS vSUPgUS;
    FPESmUBPUNCtS;FKIEVk C CiF;MsrOF PIECE;MFgd NOTE;MvCI>tVyMeK;MWHOi NOTE;MHdF NOTE;
    MQUeTj NOTEmTEM DOWN;ZSTEM UP;MEfH NOTEmTEM DOWN;ZTEM UP;MF.Tx;FS^I;FK^n;@1D200;
    0GvEK VOCd NO>tn|-1;S2;S3;S4;S5;S6;S7;S8;S9;S10;T1;T2;T3;T4;T5;T6;T7;T8;T9;S20;T1;T2;T3;T4;
    S50;T1;T2;T3;T4;6gSTRUMsTd NO>tn|-1;Z2;Z4;Z5;Z7;Z8;Z11;Z12;Z13;Z14;Z17;Z18;Z19;Z23;Z24;Z25;
    Z26;Z27;Z29;Z30;Z32;Z36;Z37;Z38;Z39;Z40;Z42;Z43;Z45;Z47;Z48;Z49;Z50;Z51;Z52;Z53;Z54",
   "0COMBg&GvEK MU=Cd TRISEME;PET+SEME;OPs>SEME;0GvEK MU=Cd iIMMA;@1D2E0;0MAYk NUMjd ZjO;EnE;
    ETWO;FHvE;EFOUR;FIVE;E=X;FEVs;EEf;ENgE;ETs;EEiVs;ETWELVE;FHIRTEs;EFOURTEs;FIFTEs;E=XTEs;
    FEVsTEs;EEfEs;ENgETEs;@1D300;1nOG+M F^ Eez;0DIG+M F^ <AVsLY Eez;CUMk Eez;BEezLY <AVs;KUMk;
    FH;0TET+G+M F^ CsTv;EFULL _i;EMIvD;EBeRIj;EKEEPgGmMdL;ECnTReIETY;EASCsT;EOPPO=tn;EBRkCH&OUT;
    EDEFECtVsESS ^ DIST^tn;FIVjGsCE;EYOUzFULNESS;EgCvASE;EPsET+tn;EvACH;ECn>CT;EHOLD&BACK;
    EWAITgG;EFOLLOWgG;EADVkCE;EviASE;G=STkCE;EEASE;EJOY;ECnTstn;EsDEAVOUR;EDUtES;ECHkGE;
    EDECI=VsESS;EBOLrvSOLUtn;EPACKgG;EiGIn;ECLOSsESS;EKgSHIP;EGAzjgG;ESTRsGz;EPURITY;EFULLNESS;
    Ev=DsCE;E.W ^ MODEL;EvSPnSE;EGO&TO MEET;EsCOUNTjS;ESTOVE;EGvATNESS;EsLeGEMsT;EPATTjN;ERITUd;
    EFLf;EVASTNESS ^ WASTgG;ECnSTkCY;EMEASUv;EETjNITY;EUNITY;EDIMgISHMsT;ECLOSErMOUz;
    EGUeDEDNESS;FAzj&g;EMASSgG;EACCUMU.tn;EEMBELLISHMsT;EDOUBT;EWATCH;ESgKgG;EgNj;EDEPeTUv;
    FeKsgG;FIMMgG;EEXwUStn;ESEVjkCE;FTOPPAGE;EHeDNESS;ECOMPitn;FLOSUv;EFAILUv;EAGG+VAtn;
    ECOMPLIkCE;En zyVjGE;EDIFFICULtES;E.BOURgG;EFOSTjgG;@1D360;0COUNT&ROrUNIT DIGIT nE;OTWO;
    PHvE;OFOUR;PIVE;O=X;PEVs;OEf;ONgE;DTsS DIGIT nE;OTWO;PHvE;OFOUR;PIVE;O=X;PEVs;OEf;ONgE;
    0IDEOG+PHIC TdLY MeK nE;NTWO;OHvE;NFOUR;OIVE;0TdLY MeK nE;BFIVE;@1D400;0MAzEMAtCd BOLrcL A;
    QB;QC;QD;QE;QF;QG;QH;QI;QJ;QK;QL;QM;QN;QO;QP;QQ;QR;QS;QT;QU;QV;QW;QX;QY;QZ;ISMdL A;OB;OC;OD;
    OE;OF;OG;OH;OI;OJ;OK;OL;OM;ON;OO;OP;OQ;OR;OS;OT;OU;OV;OW;OX;OY;OZ;DITdIC cL A;SB;SC;SD;SE;
    SF;SG;SH;SI;SJ;SK;SL;SM;SN;SO;SP;SQ;SR;SS;ST;SU;SV;SW;SX;SY;SZ;KSMdL A;QB;QC;QD;QE;QF;QG;
    @1D456;QI;QJ;QK;QL;QM;QN;QO;QP;QQ;QR;QS;QT;QU;QV;QW;QX;QY;QZ;DBOLrITdIC cL A;XB;XC;XD;XE;XF;
    XG;XH;XI;XJ;XK;XL;XM;XN;XO;XP;XQ;XR;XS;XT;XU;XV;XW;XX;XY;XZ;PSMdL A;VB;VC;VD;VE;VF;VG;VH;VI;
    VJ;VK;VL;VM;VN;VO;VP;VQ;VR;VS;VT;VU;VV;VW;VX;VY;VZ;DSCRIPT cL A;@1D49E;SC;SD;@1D4A2;SG;
    @1D4A5;SJ;SK;@1D4A9;SN;SO;SP;SQ;@1D4AE;SS;ST;SU;SV;SW;SX;SY;SZ;KSMdL A;QB;QC;QD;@1D4BB;QF;
    @1D4BD;QH;QI;QJ;QK;QL;QM;QN;@1D4C5;QP;QQ;QR;QS;QT;QU;QV;QW;QX;QY;QZ;DBOLDmCRIPT cL A;XB;XC;
    XD;XE;XF;XG;XH;XI;XJ;XK;XL;XM;XN;XO;XP;XQ;XR;XS;XT;XU;XV;XW;XX;XY;XZ;PSMdL A;VB;VC;VD;VE;VF;
    VG;VH;VI;VJ;VK;VL;VM;VN;VO;VP;VQ;VR;VS;VT;VU;VV;VW;VX;VY;VZ;DF+KTUR cL A;TB;@1D507;TD;TE;TF;
    TG;@1D50D;TJ;TK;TL;TM;TN;TO;TP;TQ;@1D516;TS;TT;TU;TV;TW;TX;TY;@1D51E;LSMdL A;RB;RC;RD;RE;RF;
    RG;RH;RI;RJ;RK;RL;RM;RN;RO;RP;RQ;RR;RS;RT;RU;RV;RW;RX;RY;RZ;D%-STRUCK cL A;ZB;@1D53B;ZD;ZE;
    ZF;ZG;@1D540;ZI;ZJ;ZK;ZL;ZM;@1D546;ZO;@1D54A;ZS;ZT;ZU;ZV;ZW;ZX;ZY;@1D552;RSMdL A;XB;XC;XD;
    XE;XF;XG;XH;XI;XJ;XK;XL;XM;XN;XO;XP;XQ;XR;XS;XT;XU;XV;XW;XX;XY;XZ;DBOLrF+KTUR cL A;YB;YC;YD;
    YE;YF;YG;YH;YI;YJ;YK;YL;YM;YN;YO;YP;YQ;YR;YS;YT;YU;YV;YW;YX;YY;YZ;QSMdL A;WB;WC;WD;WE;WF;WG;
    WH;WI;WJ;WK;WL;WM;WN;WO;WP;WQ;WR;WS;WT;WU;WV;WW;WX;WY;WZ;DSkS-SjIF cL A;WB;WC;WD;WE;WF;WG;
    WH;WI;WJ;WK;WL;WM;WN;WO;WP;WQ;WR;WS;WT;WU;WV;WW;WX;WY;WZ;OSMdL A;UB;UC;UD;UE;UF;UG;UH;UI;UJ;
    UK;UL;UM;UN;UO;UP;UQ;UR;US;UT;UU;UV;UW;UX;UY;UZ;OBOLrcL A;ZL B;ZL C;ZL D;ZL E;ZL F;ZL G;
    ZL H;ZL I;ZL J;ZL K;ZL L;ZL M;ZL N;ZL O;ZL P;ZL Q;ZL R;ZLm;ZL T;ZL U;ZL V;ZL W;ZL X;ZL Y;
    ZL Z;TSMdL A;ZB;ZC;ZD;ZE;ZF;ZG;ZH;ZI;ZJ;ZK;ZL;ZM;ZN;ZO;ZP;ZQ;ZR;ZS;ZT;ZU;ZV;ZW;ZX;ZY;ZZ;
    OITdIC cL A;ZTd B;ZTd C;ZTd D;ZTd E;ZTd F;ZTd G;ZTd H;ZTd I;ZTd J;ZTd K;ZTd L;ZTd M;ZTd N;
    ZTd O;ZTd P;ZTd Q;ZTd R;ZTdm;ZTd T;ZTd U;ZTd V;ZTd W;ZTd X;ZTd Y;ZTd Z;VSMdL A;ZL B;ZL C;
    ZL D;ZL E;ZL F;ZL G;ZL H;ZL I;ZL J;ZL K;ZL L;ZL M;ZL N;ZL O;ZL P;ZL Q;ZL R;ZLm;ZL T;ZL U;
    ZL V;ZL W;ZL X;ZL Y;ZL Z;OBOLrITdIC cL A;Z cL B;Z cL C;Z cL D;Z cL E;Z cL F;Z cL G;Z cL H;
    Z cL I;Z cL J;Z cL K;Z cL L;Z cL M;Z cL N;Z cL O;Z cL P;Z cL Q;Z cL R;Z cLm;Z cL T;Z cL U;
    Z cL V;Z cL W;Z cL X;Z cL Y;Z cL Z;ZmMdL A;ZmMdL B;ZmMdL C;ZmMdL D;ZmMdL E;ZmMdL F;ZmMdL G",
   "ZmMdL H;ZmMdL I;ZmMdL J;ZmMdL K;ZmMdL L;ZmMdL M;ZmMdL N;ZmMdL O;ZmMdL P;ZmMdL Q;ZmMdL R;
    ZmMdLm;ZmMdL T;ZmMdL U;ZmMdL V;ZmMdL W;ZmMdL X;ZmMdL Y;ZmMdL Z;DMnOSPACycL A;VB;VC;VD;VE;VF;
    VG;VH;VI;VJ;VK;VL;VM;VN;VO;VP;VQ;VR;VS;VT;VU;VV;VW;VX;VY;VZ;NSMdL A;TB;TC;TD;TE;TF;TG;TH;TI;
    TJ;TK;TL;TM;TN;TO;TP;TQ;TR;TS;TT;TU;TV;TW;TX;TY;TZ;DITdICmMdL ~iSS I;YJ;@1D6A8;DBOLrcL dPw;
    QBE>;QGAMMA;QDEL>;QEP=Ln;QZE>;QE>;QzE>;QIO>;QKAPPA;Q.MDA;QMU;QNU;QXI;QOMICRn;QPI;QRHO;QzE>|;
    Q=GMA;Q>U;QUP=Ln;QPHI;QCHI;QP=;QOMEGA;INAB.;ISMdL dPw;OBE>;OGAMMA;ODEL>;OEP=Ln;OZE>;OE>;
    OzE>;OIO>;OKAPPA;O.MDA;OMU;ONU;OXI;OOMICRn;OPI;ORHO;OFgdmIGMA;O=GMA;O>U;OUP=Ln;OPHI;OCHI;
    OP=;OOMEGA;IPetd DIFFjstd;IEP=Ln|;IzE>|;IKAPPA|;IPHI|;IRHO|;IPI|;DITdIC cL dPw;SBE>;SGAMMA;
    SDEL>;SEP=Ln;SZE>;SE>;SzE>;SIO>;SKAPPA;S.MDA;SMU;SNU;SXI;SOMICRn;SPI;SRHO;SzE>|;S=GMA;S>U;
    SUP=Ln;SPHI;SCHI;SP=;SOMEGA;KNAB.;KSMdL dPw;QBE>;QGAMMA;QDEL>;QEP=Ln;QZE>;QE>;QzE>;QIO>;
    QKAPPA;Q.MDA;QMU;QNU;QXI;QOMICRn;QPI;QRHO;QFgdmIGMA;Q=GMA;Q>U;QUP=Ln;QPHI;QCHI;QP=;QOMEGA;
    KPetd DIFFjstd;KEP=Ln|;KzE>|;KKAPPA|;KPHI|;KRHO|;KPI|;DBOLrITdIC cL dPw;XBE>;XGAMMA;XDEL>;
    XEP=Ln;XZE>;XE>;XzE>;XIO>;XKAPPA;X.MDA;XMU;XNU;XXI;XOMICRn;XPI;XRHO;XzE>|;X=GMA;X>U;XUP=Ln;
    XPHI;XCHI;XP=;XOMEGA;PNAB.;PSMdL dPw;VBE>;VGAMMA;VDEL>;VEP=Ln;VZE>;VE>;VzE>;VIO>;VKAPPA;
    V.MDA;VMU;VNU;VXI;VOMICRn;VPI;VRHO;VFgdmIGMA;V=GMA;V>U;VUP=Ln;VPHI;VCHI;VP=;VOMEGA;
    PPetd DIFFjstd;PEP=Ln|;PzE>|;PKAPPA|;PPHI|;PRHO|;PPI|;DSkS-SjIF BOLrcL dPw;ZL BE>;ZL GAMMA;
    ZL DEL>;ZL EP=Ln;ZL ZE>;ZL E>;ZL zE>;ZL IO>;ZL KAPPA;ZL .MDA;ZL MU;ZL NU;ZL XI;ZL OMICRn;
    ZL PI;ZL RHO;ZL zE>|;ZLmIGMA;ZL >U;ZL UP=Ln;ZL PHI;ZL CHI;ZL P=;ZL OMEGA;TNAB.;TSMdL dPw;
    ZBE>;ZGAMMA;ZDEL>;ZEP=Ln;ZZE>;ZE>;ZzE>;ZIO>;ZKAPPA;Z.MDA;ZMU;ZNU;ZXI;ZOMICRn;ZPI;ZRHO;
    ZFgdmIGMA;Z=GMA;Z>U;ZUP=Ln;ZPHI;ZCHI;ZP=;ZOMEGA;TPetd DIFFjstd;TEP=Ln|;TzE>|;TKAPPA|;TPHI|;
    TRHO|;TPI|;TITdIC cL dPw;Z cL BE>;Z cL GAMMA;Z cL DEL>;Z cL EP=Ln;Z cL ZE>;Z cL E>;Z cL zE>;
    Z cL IO>;Z cL KAPPA;Z cL .MDA;Z cL MU;Z cL NU;Z cL XI;Z cL OMICRn;Z cL PI;Z cL RHO;
    Z cL zE>|;Z cLmIGMA;Z cL >U;Z cL UP=Ln;Z cL PHI;Z cL CHI;Z cL P=;Z cL OMEGA;Z NAB.;
    ZmMdL dPw;ZmMdL BE>;ZmMdL GAMMA;ZmMdL DEL>;ZmMdL EP=Ln;ZmMdL ZE>;ZmMdL E>;ZmMdL zE>;
    ZmMdL IO>;ZmMdL KAPPA;ZmMdL .MDA;ZmMdL MU;ZmMdL NU;ZmMdL XI;ZmMdL OMICRn;ZmMdL PI;ZmMdL RHO;
    ZmMdL FgdmIGMA;ZmMdLmIGMA;ZmMdL >U;ZmMdL UP=Ln;ZmMdL PHI;ZmMdL CHI;ZmMdL P=;ZmMdL OMEGA;
    Z Petd DIFFjstd;Z EP=Ln|;Z zE>|;Z KAPPA|;Z PHI|;Z RHO|;Z PI|;DBOLrcL DIGAMMA;ISMdL DIGAMMA;
    @1D7CE;IDIGIT ZjO;OnE;OTWO;PHvE;OFOUR;PIVE;O=X;PEVs;OEf;ONgE;D%-STRUCK DIGIT ZjO;XnE;XTWO;
    YHvE;XFOUR;YIVE;X=X;YEVs;XEf;XNgE;DSkS-SjIF DIGIT ZjO;UnE;UTWO;VHvE;UFOUR;VIVE;U=X;VEVs;UEf;
    UNgE;OBOLrDIGIT ZjO;ZnE;ZTWO;ZzvE;ZFOUR;ZFIVE;Z=X;ZSEVs;ZEf;ZNgE;DMnOSPACyDIGIT ZjO;TnE;
    TTWO;UHvE;TFOUR;UIVE;T=X;UEVs;TEf;TNgE;0=GNWRIT&HkD-FIST gDEX;H_i gDEX;IUP gDEX;HOVd gDEX;
    HHgGygDEX;HkGi gDEX;HFIST gDEX BsT;H_i gDEX BsT;HFIST zUMB UNDj gDEX BsT;MgDEX +ISErKNUCKi;
    SCUPPED;SHgGED;Y LOW;H_i gDEX HgGE;HFIST gDEX MIDDi;H_i gDEX MIDDi;HFIST gDEX MIDDi BsT;
    Z+ISErKNUCKiS;ZHgGED;SUP MIDDi HgGED;SHgGErMIDDi UP;SMIDDi CnJOgED;ZCnJOgErgDEX BsT;
    ZCnJOgErMIDDi BsT;ZCnJOgErCUPPED;ZCnJOgErHgGED;ZCROSSED;H_i gDEX MIDDi CROSSED;
    HFIST MIDDi BsT OVj gDEX;MgDEX BsT OVj MIDDi;SMIDDi zUMB;H_i gDEX MIDDi zUMB;
    HFIST gDEX MIDDimT+f zUMB BsT;ZBsT zUMBmT+f;ZzUMB BsT;ZHgGEDmPvArzUMBmIDE;
    SUP MIDDi HgGErzUMBmIDE;Zi HgGErzUMB CnJOgED;SHgGErMIDDi UP zUMBmIDE;
    SMIDDi UPmPvArzUMB F^WeD;ZzUMB CUPPED;ZzUMB _iD;ZzUMB HOOKED;ZzUMB HgGED;
    MzUMB BETWEs gDEX MIDDimT+f;MgDEX MIDDi CnJOgErzUMBmIDE;ZCnJOgErzUMBmIDyCnJOgED",
   "ZCnJOgErzUMBmIDyBsT;MMIDDi zUMB HOOKErgDEX UP;MgDEX zUMB HOOKErMIDDi UP;
    SMIDDi CnJOgErHgGErzUMBmIDE;ZCROSSErzUMBmIDE;ZCnJOgErzUMB F^WeD;ZCnJOgErCUPPErzUMB F^WeD;
    MMIDDi zUMB CUPPErgDEX UP;MgDEX zUMB CUPPErMIDDi UP;MMIDDi zUMB _irgDEX UP;Z_irgDEX HgGED;
    MgDEX zUMB kGirOUT MIDDi UP;ZNGirg MIDDi UP;Y_irMIDDi UP;SMIDDi zUMB CnJOgErHgGED;
    ZzUMB kGirOUT;ZzUMB kGiD;MMIDDi zUMB kGirOUT gDEX UP;ZkGirOUT gDEX CROSSED;ZkGirgDEX UP;
    MgDEX zUMB HOOKErMIDDi HgGED;I.T FOUR FgGjS;Y BsT;ZHgGED;ZCnJOgED;ZCnJOgEDmPLIT;
    HC.W FOUR FgGjS CnJOgED;HFIST FOUR FgGjS CnJOgErBsT;HHgGyFOUR FgGjS CnJOgED;
    HF.T FIVyFgGjSmPvAD;M<EL FIVyFgGjSmPvAD;MFIVyFgGjSmPvArFOUR BsT;M<EL FIVyFgGjSmPvArFOUR BsT;
    MFIVyFgGjSmPvArBsT;M<EL FIVyFgGjSmPvArBsT;MFIVyFgGjSmPvArzUMB F^WeD;HCUP FIVyFgGjSmPvAD;
    ZPvArOPs;HHgGyFIVyFgGjSmPvArOPs;HOVd FIVyFgGjSmPvAD;HF.T FIVyFgGjSmPvArHgGED;
    ZSPvArHgGErzUMBmIDE;ZSPvArHgGErNO zUMB;KT;L BETWEs PdM FACgGS;M<EL;MzUMBmIDE;M<EL zUMBmIDE;
    MzUMB BsT;SF^WeD;MSPLIT gDEX zUMBmIDE;SCsTv;Y zUMBmIDE;ZzUMBmIDyBsT;SLITTi;HC.W;L zUMBmIDE;
    MNO zUMB;MzUMB F^WeD;HHOOK CURLICUE;KK;HCUP OPs;JP;K OPs zUMBmIDE;LzUMBmIDE;LOPs NO zUMB;
    LNO zUMB;LOPs zUMB F^WeD;LzUMB F^WeD;JRLICUyOPs;OE;IIRCi;HOVd;L zUMBmIDE;MNO zUMB;
    MzUMB F^WeD;HHgGyOPs;R zUMB F^WeD;LE;MmMdL;NOPs zUMBmIDE;NzUMBmIDE;NOPs NO zUMB;NNO zUMB;
    NzUMBmIDyTOUCH&gDEX;TBETWEs MIDDi RgG;HkGi;HFIST gDEX MIDDi RgG;H_i gDEX MIDDi RgG;
    HHgGygDEX MIDDi RgG;HkGi gDEX MIDDi RgG;HHgGyLITTi;HFIST gDEX MIDDi R&BsT;ZR&CnJOgED;
    HHgGygDEX MIDDi R&CnJOgED;HFIST LITTi DOWN;X RIPPimT+f;ZIPPi CURVED;YOzjS _iD;TUP;
    MzUMB UNDj LITTi UP;H_i LITTi UP;HOVd LITTi UP;HkGi LITTi UP;HFIST LITTi +ISErKNUCKi;TBsT;
    TTOUC<S zUMB;UHUMB;HHgGyLITTi zUMB;HFIST LITTi gDEX zUMB;HHgGyLITTi gDEX zUMB;
    HkGi LITTi gDEX zUMB gDEX zUMB OUT;Z zUMB gDEX zUMB;HFIST LITTi gDEX;H_i LITTi gDEX;
    HHgGyLITTi gDEX;HkGi LITTi gDEX;HFIST gDEX MIDDi LITTi;H_i gDEX MIDDi LITTi;
    HHgGygDEX MIDDi LITTi;NRgG;HkGi gDEX MIDDi LITTi;HFIST gDEX MIDDi CROSS LITTi;
    H_i gDEX MIDDi CROSS LITTi;HFIST R&DOWN;HHgGyR&DOWN gDEX zUMB HOOK MIDDi;
    HkGi R&DOWN MIDDi zUMB gDEX CROSS;HFIST R&UP;R+ISErKNUCKi;RLITTi;H_i R&LITTi;HOVd R&LITTi;
    HkGi R&LITTi;HFIST R&MIDDi;X CnJOgED;Y+ISErKNUCKiS;RgDEX;RzUMB;HHOOK R&zUMB;
    HFIST gDEX R&LITTi;H_i gDEX R&LITTi;IURLICUygDEX R&LITTi n;HHOOK gDEX R&LITTi OUT;ZTTi g;
    ZTTi UNDj;HCUP gDEX R&LITTi;HHgGygDEX R&LITTi;HkGi gDEX R&LITTi OUT;ZITTi;HFIST MIDDi DOWN;
    HHgGyMIDDi;HFIST MIDDi UP;H_i MIDDi UP;HFIST MIDDi +ISErKNUCKi;TUP zUMBmIDE;
    HHOOK MIDDi zUMB;HFIST MIDDi zUMB LITTi;TLITTi;TR&LITTi;H_i MIDDi R&LITTi;
    IURLICUyMIDDi R&LITTi n;JP MIDDi R&LITTi;HHgGyMIDDi R&LITTi;HkGi MIDDi R&LITTi OUT;ZLITTi g;
    ZLITTi;H_i MIDDi R&LITTi BsT;I.W MIDDi R&LITTi CnJOgED;ZITTi CnJOgEDmIDE;
    HHOOK MIDDi R&LITTi CnJOgErOUT;ZITTi CnJOgErg;ZITTi CnJOgED;IgGygDEX HgGED;
    HFIST gDEX zUMBmIDE;HHgGygDEX zUMBmIDE;HFIST gDEX zUMBmIDyzUMB DIAGnd;ZIDyzUMB CnJOgED;
    ZIDyzUMB BsT;ZIDygDEX BsT;ZIDyBOz BsT;ZIDygDEX HgGE;YF^WergDEXmT+f;Z^WergDEX BsT;YHOOK;
    YCURLICUE;ZURVyzUMB g=DE;HC.W gDEX zUMB CURVyzUMB g=DE;HFIST gDEX zUMB CURVyzUMB UNDj;ZIRCi;
    HCUP gDEX zUMB;W OPs;HHgGygDEX zUMB OPs;ZLeGE;XB;YmMdL;HkGi gDEX zUMB OUT;Zg;XB;HFIST zUMB;
    R <EL;S=DyDIAGnd;XCnJOgED;XBsT;SF^WeD;SBETWEs gDEX MIDDi;Z MIDDi RgG;Z R&LITTi;
    SUNDj TWO FgGjS;SOVj TWO FgGjS;SUNDj zvyFgGjS;YFOUR FgGjS;SOVj FOUR +ISErKNUCKiS;KT;L <EL;
    CTOUCHmgGi;IMULtPi;IBETWEs;CG+SPmgGi;IMULtPi;IBETWEs;CSTRIKEmgGi;JMULtPi;JBETWEs;CBRUSHmgGi",
   "IMULtPi;IBETWEs;CRUBmgGi;GMULtPi;GBETWEs;CSURFACE|S;KBETWEs;DQUEEZyLeGEmgGi;KSMdLmgGi;
    KLeGyMULtPi;KSMdL MULtPi;LEQUstd;CFLICK LeGEmgGi;ISMdLmgGi;ILeGyMULtPi;ISMdL MULtPi;JEQUstd;
    CSQUEEZyFLICK dTjNATgG;CMOVEMsT-HgGyUP DOWN LeGE;ZSMdL;USEQUstd;RDOWNmEQUstd;
    RUP DOWN dTjNAT&LeGE;ZdTjNATgGmMdL;R=DyTOmIDEmCISS^S;LWdLPLkyFgGj Cn>CT;LFLO^PLkyFgGj Cn>CT;
    LWdLPLkEmgGimT+fmMdL;ZimT+f MEDIUM;ZimT+f LeGE;ZimT+f LeGEST;Zi WRIST FiX;V%mT+f;
    Zi WRIST FiX;Zi dTjNATgG;Zi dTjNAT&WRIST FiX;VCROSS;VTRIPimT+f MOVEMsT;Zi WRIST FiX;
    Zi dTjNATgG;Zi dTjNAT&WRIST FiX;VBsDmMdL;Z MEDIUM;Z LeGE;VC^NjmMdL;Zj MEDIUM;Zj LeGE;
    Zj RO>tn;W<CKmMdL;ZK MEDIUM;ZK LeGE;VBOXmMdL;ZMEDIUM;ZLeGE;VZIGZAGmMdL;ZAG MEDIUM;ZAG LeGE;
    VPEAKSmMdL;ZS MEDIUM;ZS LeGE;CT+VEL-WdLPLkyRO>tn-WdLPLkEmgGi;Zn-WdLPLky%;Zn-WdLPLkydTjNATgG;
    Zn-FLO^PLkEmgGi;Zn-FLO^PLky%;Zn-FLO^PLkydTjNATgG;TSwKgG;TeMmPIRdmgGi;ZIRd %;ZIRd TRIPi;
    CMOVEMsT-DIAGnd AWAYmMdL;ZMEDIUM;ZLeGE;ZLeGEST;UTOumMdL;ZDS MEDIUM;ZDS LeGE;ZDS LeGEST;
    UBETWEs AWAYmMdL;Zs AWAY MEDIUM;Zs AWAY LeGE;Zs AWAY LeGEST;Zs TOumMdL;Zs TOu MEDIUM;
    Zs TOu LeGE;Zs TOu LeGEST;LFLO^PLkEmgGimT+fmMdL;ZGimT+f MEDIUM;ZGimT+f LeGE;ZGimT+f LeGEST;
    ZGi WRIST FiX;W%mT+f;ZBi WRIST FiX;ZBi dTjNATgG;ZBi dTjNAT&WRIST FiX;WCROSS;
    WTRIPimT+f MOVEMsT;ZPi WRIST FiX;ZPi dTjNAT&MOVEMsT;ZPi dTjNAT&WRIST FiX;WBsD;WC^NjmMdL;
    ZNj MEDIUM;ZNj LeGE;X<CK;WBOXmMdL;Z MEDIUM;Z LeGE;WZIGZAGmMdL;ZZAG MEDIUM;ZZAG LeGE;
    WPEAKSmMdL;ZKS MEDIUM;ZKS LeGE;CT+VEL-FLO^PLkyRO>tn-FLO^PLkEmgGi;ZIn-FLO^PLky%;
    ZIn-FLO^PLkydTjNATgG;ZIn-WdLPLkEmgGi;ZIn-WdLPLky%;ZIn-WdLPLkydTjNATgG;USwKgG;
    CMOVEMsT-WdLPLkyCURVyQUeTjmMdL;ZyQUeTj MEDIUM;ZyQUeTj LeGE;ZyQUeTj LeGEST;ZyHdF-_imMdL;
    ZyHdF-_i MEDIUM;ZyHdF-_i LeGE;ZyHdF-_i LeGEST;ZyzvE-QUeTj _imMdL;ZyzvE-QUeTj _i MEDIUM;
    VHUMPmMdL;Z MEDIUM;Z LeGE;VLOOPmMdL;Z MEDIUM;Z LeGE;ZmMdL %;VWAVyCURVy%mMdL;Z CURVy% MEDIUM;
    Z CURVy% LeGE;Z CURVyTRIPimMdL;Z CURVyTRIPi MEDIUM;Z CURVyTRIPi LeGE;VCURVyzsmT+f;
    ZErCROSSmMdL;ZErCROSS MEDIUM;CRO>tn-WdLPLkEmgGi;V%;VdTjNATE;CMOVEMsT-WdLPLkEmwKgG;
    VCURVyHITT&FRnT WdL;VHUMP HITT&FRnT WdL;VLOOP HITT&FRnT WdL;VWAVyHITT&FRnT WdL;
    CRO>tn-WdLPLkEmgGi HITT&FRnT WdL;V% HITT&FRnT WdL;VdTjNAT&HITT&FRnT WdL;
    CMOVEMsT-WdLPLkyCURVyHITT&C<ST;VHUMP HITT&C<ST;VLOOP HITT&C<ST;VWAVyHITT&C<ST;
    CRO>tn-WdLPLkEmgGi HITT&C<ST;V% HITT&C<ST;VdTjNAT&HITT&C<ST;
    CMOVEMsT-WdLPLkyWAVyDIAGnd PAzmMdL;Z DIAGnd PAz MEDIUM;Z DIAGnd PAz LeGE;
    LFLO^PLkyCURVyHITT&CEILgGmMdL;ZVyHITT&CEIL&LeGE;WHUMP HITT&CEILgGmMdL %;ZP HITT&CEIL&LeGy%;
    ZP HITT&CEILgGmMdL TRIPi;ZP HITT&CEIL&LeGyTRIPi;WLOOP HITT&CEILgGmMdLmgGi;
    ZP HITT&CEIL&LeGEmgGi;ZP HITT&CEILgGmMdL %;ZP HITT&CEIL&LeGy%;WWAVyHITT&CEILgGmMdL;
    ZyHITT&CEIL&LeGE;CRO>tn-FLO^PLkEmgGi HITT&CEILgG;W% HITT&CEILgG;WdTjNAT&HITT&CEILgG;
    CMOVEMsT-FLO^PLkyCURVyHITT&FLO^mMdL;ZVyHITT&FLO^ LeGE;WHUMP HITT&FLO^mMdL %;
    ZP HITT&FLO^ LeGy%;ZP HITT&FLO^ TRIPimMdL TRIPi;ZP HITT&FLO^ TRIPi LeGyTRIPi;
    WLOOP HITT&FLO^mMdLmgGi;ZP HITT&FLO^ LeGEmgGi;ZP HITT&FLO^mMdL %;ZP HITT&FLO^ LeGy%;
    WWAVyHITT&FLO^mMdL;ZyHITT&FLO^ LeGE;CRO>tn-FLO^PLkEmgGi HITT&FLO^;W% HITT&FLO^;
    WdTjNAT&HITT&FLO^;CMOVEMsT-FLO^PLkyCURVEmMdL;ZVyMEDIUM;ZVyLeGE;ZVyLeGEST;ZVyCOMBgED;
    WHUMPmMdL;WLOOPmMdL;WWAVEmNAKE;ZEmMdL;ZyLeGE;CRO>tn-FLO^PLkEmgGi;W%;WdTjNATgG;
    CMOVEMsT-FLO^PLkEmwK&PediL;LWdLPLkyeM _imMdLmgGi;Z_i MEDIUMmgGi;Z_imMdL %;Z_i MEDIUM %;
    LFLO^PLkyeM _i HITT&WdLmMdLmgGi;Z _i HITT&WdL MEDIUMmgGi;Z _i HITT&WdL LeGEmgGi",
   "Z _i HITT&WdLmMdL %;Z _i HITT&WdL MEDIUM %;Z _i HITT&WdL LeGy%;LWdLPLkyWRIST _i FRnTmgGi;
    ZT _i FRnT %;LFLO^PLkyWRIST _i HITT&WdLmgGi;ZST _i HITT&WdL %;LWdLPLkyFgGj _iSmgGi;Zj _iS %;
    LFLO^PLkyFgGj _iS HITT&WdLmgGi;ZGj _iS HITT&WdL %;CDYNAMICl<ADmMdL;ULeGE;KFAST;KSLOW;KTsSE;
    Kv.XED;K=MULTkEOUS;W dTjNATgG;KEVjY Ozj tME;KG+DUd;C<AD;G RIM;HMOVEMsT-WdLPLkEmT+f;Z tLT;
    QFLO^PLkEmT+f;QWdLPLkyCURVE;QFLO^PLkyCURVE;P _i;CFACyDIvCtn PO=tn NOSyF^WertLTgG;
    Z NOSyUP ^ DOWN;Z NOSyUP ^ DOWN tLTgG;CEYEBROWSmT+f UP;UNEUTRd;UDOWN;
    CDvAMY EYEBROWS NEUTRd DOWN;SDOWN NEUTRd;SUP NEUTRd;SNEUTRd UP;CFOv<ArNEUTRd;LCn>CT;LWRgKiD;
    CEYES OPs;HSQUEEZED;HCLOSED;F BLgKmgGi;MMULtPi;FS HdF OPs;HWIDyOPs;HHdF CLOSED;
    HWIDs&MOVEMsT;F WgK;F.S<S UP;MDOWN;MFLUTTjgG;FGAZE-WdLPLkEmT+f;ZGHT %;ZGHT dTjNATgG;
    KFLO^PLkEmT+f;Zf %;Zf dTjNATgG;KWdLPLkyCURVED;KFLO^PLkyCURVED;KWdLPLky_LgG;CC<EKS PUFFED;
    JNEUTRd;JSUCKED;CTsSyC<EKS HIGH;PMIDDi;PLOW;CEeS;CNOSyNEUTRd;HCn>CT;HWRgKiS;IIGGiS;
    CAIR BLOW&OUT;GSUCK&g;GBLOWmMdL RO>tnS;GSUCKmMdL RO>tnS;CBvAz gHdE;JEXHdE;
    CMOUz CLOSErNEUTRd;PF^WeD;PCn>CT;ISMIi;N WRgKiD;OOPs;IFROWN;N WRgKiD;OOPs;IOPs _i;NF^WeD;
    NWRgKiD;NOVd;R WRgKiD;SYAWN;NvCTkGi;W WRgKiD;XYAWN;IKISS;M F^WeD;NWRgKiD;ITsSE;N F^WeD;
    OSUCKED;CLIPS PvSSErTOGEzj;F LOWj OVj UPPj;GUPPj OVj LOWj;CMOUz C^NjS;IWRgKiSmgGi;R%;
    CTnGUEmtCK&OUT Fe;JLICK&LIPS;JtP BETWEs LIPS;NTOUCH&g=DyMOUz;Jg=DyMOUz v.XED;
    JMOVES AGAgST C<EK;JCsTvmtCK&OUT;Qg=DyMOUz;DEEz;H MOVEMsT;In TnGUE;R MOVEMsT;LLIPS;
    P MOVEMsT;IBITyLIPS;CMOVEMsT-WdLPLkyJAW;LFLO^PLkyJAW;CNECK;CwIR;CEXCITEMsT;CSHOULDj HIPmPgE;
    PPO=tnS;CWdLPLkEmHOULDj HIP MOVE;CFLO^PLkEmHOULDj HIP MOVE;CSHOULDj tLT&FROM WAIST;
    CT^SO-WdLPLkEmT+fmTvTCH;SCURVErBsD;IFLO^PLkyTWISTgG;CUPPj BODY tLT&FROM HIP JOgTS;
    CLIMB COMBgAtn;HiNGz-1;O2;O3;O4;O5;O6;O7;CFgGj;CLOCAtn-WdLPLkEmPACE;LFLO^PLkEmPACE;K <f;
    LWIDz;LDEPz;L<ArNECK;LT^SO;LLIMBS DIGITS;CCOMMA;CFULLmTOP;CSEMICOLn;CCOLn;CPeszE=S;@1DA9B;
    CFILL MODIFIj-2;Q3;Q4;Q5;Q6;@1DAA1;CRO>tn MODIFIj-2;U3;U4;U5;U6;U7;U8;U9;U10;V1;V2;V3;V4;V5;
    V6;@1DF00;0.TgmMdaFsG DIG+PHbTRILL;JvVjSEDmCRIPT G;6iTTjmMdL cL TURNErG;6qvVjSErK;
    6iTTjmMdL cL LbBELT;6qiZHbvTROFiX HOOK;JTURNErYbBELT;JvVjSErsG;JTURNErRbLnG iG?vTROFiX HOOK;
    KbHOOK?vTROFiX HOOK;6,vTROFiX CLICKbvTROFiX HOOK;6qESHb% Be;ZBe?CURL;JTURNErTbCURL;
    6,gVjTErGLOTTdmTOPbCURL;DSTvTC<rCbCURL;EMdL cL TURNErK;6qLbFISHHOOK;JDEZH DIG+PHbPdATd HOOK;
    JLbBELT?PdATd HOOK;JsGbPdATd HOOK;JTURNErRbPdATd HOOK;JRbFISHHOOK?PdATd HOOK;
    JTESH DIG+PHbPdATd HOOK;JEZHbPdATd HOOK;JDEZH DIG+PHbvTROFiX HOOK;JIbSTROKykrvTROFiX HOOK;
    JObvTROFiX HOOK;JTESH DIG+PHbvTROFiX HOOK;JCbvTROFiX HOOK;JSbCURL;@1E000;
    0COMBg&G.GOLItC ,AZU;SBUKY;SVEDE;SG.GOLI;SDOBRO;SYESTU;SZHIVETE;@1E008;TEMLJA;SIZ<;
    TNItd IZ<;SI;SDJjVI;SKAKO;SLJUDIJE;SMYSLITE;SNASHI;SnU;SPOKOJI;SRIT=;SSLOVO;STVRIDO;SUKU;
    SFRITU;SHjU;@1E01B;SSH>;ST=;SCHRIVI;SSw;SYjU;VI;TAt;@1E023;TU;SSMdL YUS;@1E026;SYO;
    SIO>TEDmMdL YUS;SBIG YUS;SIO>TErBIG YUS;SFI>;@1E100;0NYIAKsG PUACHUyHMnG ,MA;UTSA;UN>;U>;Uw;
    UNA;UXA;UNKA;UCA;U.;USA;UZA;UNCA;VTSA;UKA;UDA;UNYA;V+;UVA;UNTXA;UTXA;UFA;U+;UQA;UYA;UNQA;
    UPA;UXYA;UNPA;UD.;UNP.;UwH;UM.;UP.;UGA;UR+;UA;VA;UI;UU;UO;VO;UE;VE;UW;@1E130;NTnE-B;SM;SJ;
    SV;SS;SG;SD;N=GN F^ PjSn;WzgG;WLOCAtn;WkIMd;WgVjTEB+TE;SXW XW;OYL.Bi iNGzsj;@1E140;
    NDIGIT ZjO;TnE;TTWO;UHvE;TFOUR;UIVE;T=X;UEVs;TEf;TNgE;@1E14E;NLOGOG+M NYAJ;N_irCA;@1E290;
    0TOTO ,PA;CBA;C>;CDA;CKA;CGA;CMA;CNA;DGA;CSA;CCw;CYA;CWA;CJA;Cw;C+;C.;CI;CBvAzY I;CIU;
    CBvAzY IU;CU;CE;CBvAzY E;CEO;CBvAzY EO;CO;CAE;CBvAzY AE;CA;5=GN RIS&TnE;@1E2C0;0WkCHO ,AA",
   "EA;EBA;ECA;EDA;EGA;EYA;EPw;E.;ENA;EPA;E>;Fw;EFA;ESA;Fw;EJA;EZA;EWA;EVA;EKA;EO;EAU;E+;EMA;
    EKw;Ew;EE;EI;ENGA;EU;ELLw;ETSA;F+;EnG;EAkG;FNG;EgG;En;Es;EAk;ENYA;EUs;EYIH;7TnyTUP;FNI;CKOI;
    FNI;7DIGIT ZjO;DnE;DTWO;EHvE;DFOUR;EIVE;D=X;EEVs;DEf;DNgE;@1E2FF;7NGUNx;@1E7E0;
    0EzIOPICmYL.Bi HHYA;LU;LI;LAA;LEE;LE;LO;@1E7E8;IGU+GyHHWA;IHHWI;LEE;LE;@1E7ED;IGU+GyMWI;REE;
    @1E7F0;PQWI;REE;RE;PBWI;REE;PKWI;REE;RE;PGWI;REE;RE;PFWI;REE;PPWI;REE;@1E800;
    0MsDyKIKAKUImYL.Bi M001 KI;Q2 KA;Q3 KU;P65 KEE;P95 KE;P76 KOO;P48 KO;O179 KUA;O004 WI;Q5 WA;
    Q6 WU;O126 WEE;P18 WE;Q4 WOO;O045 WO;O194 WUI;P43 WEI;O061 WVI;P49 WVA;O139 WVE;O007 Mg;
    Q8 Mk;Q9 MUN;P59 Ms;P94 Mn;O154 MUk;P89 MUs;O010 BI;Q1 BA;Q2 BU;O150 BEE;O097 BE;O103 BOO;
    P38 BO;O013 I;Q4 A;Q5 U;O163 EE;P00 E;P65 OO;P47 O;P37 EI;Q1 g;Q5 g;P95 k;P78 s;O019mI;
    P20mA;Q1mU;O162mEE;P16mE;P36mOO;O079mO;O196mIA;O025 LI;Q6 .;Q7 LU;P84 iE;P73 i;P54 LOO;
    O153 LO;P10 LnG i;O016 DI;Q7 DA;Q8 DU;P89 DEE;O180 DOO;Q1 DO;O022 t;Q3 >;Q4 TU;P91 TEE;
    P55 TE;O104 TOO;O069 TO;P28 JI;Q9 JA;P30 JU;O157 JEE;P13 JE;P60 JOO;O063 JO;O175 LnG JO;
    O031 YI;Q2 YA;Q3 YU;O109 YEE;O080 YE;O141 YOO;P21 YO;O034 FI;Q5 FA;Q6 FU;P78 FEE;Q5 FE;
    O133 FOO;O088 FO;O197 FUA;P01 Fk;O037 Ng;Q8 Nk;Q9 NUN;O117 Ns;P69 Nn;P76 HI;O041 w;O186 HU;
    O040 <E;P96 <;P42 HOO;O140 HO;O083 <EI;O128 HOOU;O053 Hg;O130 Hk;O087 HUN;P52 Hs;O193 Hn;
    O046 HUk;P90 NGGI;P43 NGGA;P82 NGGU;O115 NGGEE;P46 NGGE;P56 NGGOO;P20 NGGO;P59 NGGAA;
    P27 NGGUA;O086 LnG NGGE;O106 LnG NGGOO;P83 LnG NGGO;P55 GI;P11 GA;P68 GU;P90 GEE;P66 GUEI;
    Q7 GUk;P84 NGs;O057 NGn;O177 NGUk;O068 PI;P99 PA;P50 PU;P81 PEE;P51 PE;O102 POO;O066 PO;
    O145 MBI;O062 MBA;O122 MBU;O047 MBEE;O188 MBEE;O072 MBE;O172 MBOO;Q4 MBO;P87 MBUU;
    P61 LnG MBE;P05 LnG MBOO;P42 LnG MBO;P32 KPI;O092 KPA;P74 KPU;P44 KPEE;O108 KPE;P12 KPOO;
    P58 KPO;P24 GBI;O056 GBA;O148 GBU;O093 GBEE;O107 GBE;O071 GBOO;Q0 GBO;O171 +;P23 NDI;Q9 NDA;
    Q5 NDU;P91 NDEE;P19 NDE;O067 NDOO;Q4 NDO;O152 NJA;P92 NJU;P49 NJEE;P34 NJOO;P82 VI;Q5 VA;
    P51 VU;P73 VEE;O085 VE;O144 VOO;O077 VO;O164 NYg;O058 NYk;O170 NYUN;O098 NYs;P60 NYn;@1E8C7;
    EDIGIT nE;KTWO;LHvE;KFOUR;LIVE;K=X;LEVs;KEf;KNgE;ECOMBg&NUMBj TEsS;XNS;VHUNDvDS;VzOUSkDS;
    Ws zOUSkDS;VHUNDvrzOUSkDS;VMILLInS;@1E900;0AD.M cadIF;LDAdI;L.AM;LMIIM;LBA;LSgNYIIY<;LPE;
    LB<;L+;LE;LFA;LI;LO;LDw;LY<;LWAW;LNUN;LKAF;LYA;LU;LJIIM;LCHI;Lw;LQAAF;LGA;LNYA;LTU;LNw;LVA;
    LKw;LGBE;LZd;LKPO;LSw;6qdIF;JDAdI;J.AM;JMIIM;JBA;JSgNYIIY<;JPE;JB<;J+;JE;JFA;JI;JO;JDw;JY<;
    JWAW;JNUN;JKAF;JYA;JU;JJIIM;JCHI;Jw;JQAAF;JGA;JNYA;JTU;JNw;JVA;JKw;JGBE;JZd;JKPO;JSw;
    6dIF iNGzsj;6VOWEL iNGzsj;6GEMgAtn MeK;6wMZA;6CnSnkT MODIFIj;6GEMgATyCnSnkT MODIFIj;6NUK>;
    7ASdIZAtn MeK;@1E950;6DIGIT ZjO;CnE;CTWO;DHvE;CFOUR;DIVE;C=X;DEVs;CEf;CNgE;@1E95E;
    6gItd EXC.MAtn MeK;EQUEStn MeK;@1EC71;0gDICmIYAQ NUMBj nE;JTWO;KHvE;JFOUR;KIVE;J=X;KEVs;JEf;
    JNgE;JTs;KWsTY;KHIRTY;JF^TY;KIFTY;J=XTY;KEVsTY;JEfY;JNgETY;JnyHUNDvD;JTWO HUNDvD;KHvyHUNDvD;
    JFOUR HUNDvD;KIVyHUNDvD;J=X HUNDvD;KEVs HUNDvD;JEf HUNDvD;JNgyHUNDvD;JnyzOUSkD;JTWO zOUSkD;
    KHvyzOUSkD;JFOUR zOUSkD;KIVyzOUSkD;J=X zOUSkD;KEVs zOUSkD;JEf zOUSkD;JNgyzOUSkD;JTs zOUSkD;
    KWsTY zOUSkD;KHIRTY zOUSkD;JF^TY zOUSkD;KIFTY zOUSkD;J=XTY zOUSkD;KEVsTY zOUSkD;JEfY zOUSkD;
    JNgETY zOUSkD;J.KH;Nk;C.KH MeK;CNUMBj Ke^;Ok;JPvFIXErnE;STWO;THvE;SFOUR;TIVE;S=X;TEVs;SEf;
    SNgE;CP.CEHOLDj;CF+Ctn nyQUeTj;PHdF;LzvyQUeTjS;CRUPEyMeK;CNUMBj dTjNATynE;TTWO;Us zOUSkD;
    CdTjNATy.KH MeK;@1ED01;0OTTOMkmIYAQ NUMBj nE;LTWO;MHvE;LFOUR;MIVE;L=X;MEVs;LEf;LNgE;LTs;
    MWsTY;MHIRTY;LF^TY;MIFTY;L=XTY;MEVsTY;LEfY;LNgETY;LnyHUNDvD;LTWO HUNDvD;MHvyHUNDvD;
    LFOUR HUNDvD;MIVyHUNDvD;L=X HUNDvD;MEVs HUNDvD;LEf HUNDvD;LNgyHUNDvD;LnyzOUSkD;LTWO zOUSkD",
   "MHvyzOUSkD;LFOUR zOUSkD;MIVyzOUSkD;L=X zOUSkD;MEVs zOUSkD;LEf zOUSkD;LNgyzOUSkD;LTs zOUSkD;
    MWsTY zOUSkD;MHIRTY zOUSkD;LF^TY zOUSkD;MIFTY zOUSkD;L=XTY zOUSkD;MEVsTY zOUSkD;LEfY zOUSkD;
    LNgETY zOUSkD;EMe+Tk;EdTjNATyNUMBj TWO;WHvE;VFOUR;WIVE;V=X;WEVs;VEf;VNgE;VTs;VFOUR HUNDvD;
    V=X HUNDvD;VTWO zOUSkD;Ws zOUSkD;EF+Ctn nyHdF;R=Xz;@1EE00;0eABIC MAzEMAtCd dEF;KBEH;KJEEM;
    KDd;@1EE05;KWAW;KZAg;KwH;K>H;KYEH;KKAF;K.M;KMEEM;KNOn;KSEs;KAg;KFEH;KSAD;KQAF;KvH;KS<s;KTEH;
    L<H;KKwH;Kzd;KDAD;KZAH;KGwg;K~iSS BEH;SNOn;SFEH;SQAF;@1EE21;KgItd BEH;SJEEM;@1EE24;S<H;
    @1EE27;TAH;@1EE29;SYEH;SKAF;S.M;SMEEM;SNOn;SSEs;SAg;SFEH;SSAD;SQAF;@1EE34;SS<s;STEH;T<H;
    SKwH;@1EE39;SDAD;@1EE3B;SGwg;@1EE42;K>IirJEEM;@1EE47;RwH;@1EE49;RYEH;@1EE4B;R.M;@1EE4D;RNOn;
    RSEs;RAg;@1EE51;RSAD;RQAF;@1EE54;RS<s;@1EE57;RKwH;@1EE59;RDAD;@1EE5B;RGwg;@1EE5D;R~iSS NOn;
    @1EE5F;ZQAF;@1EE61;KSTvTC<rBEH;UJEEM;@1EE64;U<H;@1EE67;VAH;U>H;UYEH;UKAF;@1EE6C;UMEEM;UNOn;
    USEs;UAg;UFEH;USAD;UQAF;@1EE74;US<s;UTEH;V<H;UKwH;@1EE79;UDAD;UZAH;UGwg;U~iSS BEH;@1EE7E;
    ZSS FEH;@1EE80;KLOOPErdEF;RBEH;RJEEM;RDd;R<H;RWAW;RZAg;RwH;R>H;RYEH;@1EE8B;R.M;RMEEM;RNOn;
    RSEs;RAg;RFEH;RSAD;RQAF;RvH;RS<s;RTEH;S<H;RKwH;Rzd;RDAD;RZAH;RGwg;@1EEA1;K%-STRUCK BEH;
    YJEEM;YDd;@1EEA5;YWAW;YZAg;YwH;Y>H;YYEH;@1EEAB;Y.M;YMEEM;YNOn;YSEs;YAg;YFEH;YSAD;YQAF;YvH;
    YS<s;YTEH;Z<H;YKwH;Yzd;YDAD;YZAH;YGwg;@1EEF0;KOPjAT^ MEEMbwHb>TWEEL;TwHbDd;@1F000;
    0MAHJnG ti EAST WgD;DSOUz WgD;DWEST WgD;DN^z WgD;DvrD+Gn;DGvs D+Gn;DWHITyD+Gn;
    DnyOF CHeACTjS;DTWO OF CHeACTjS;EHvyOF CHeACTjS;DFOUR OF CHeACTjS;EIVyOF CHeACTjS;
    D=X OF CHeACTjS;EEVs OF CHeACTjS;DEf OF CHeACTjS;DNgyOF CHeACTjS;DnyOF BAMBOOS;
    DTWO OF BAMBOOS;EHvyOF BAMBOOS;DFOUR OF BAMBOOS;EIVyOF BAMBOOS;D=X OF BAMBOOS;
    EEVs OF BAMBOOS;DEf OF BAMBOOS;DNgyOF BAMBOOS;DnyOF _iS;DTWO OF _iS;EHvyOF _iS;DFOUR OF _iS;
    EIVyOF _iS;D=X OF _iS;EEVs OF _iS;DEf OF _iS;DNgyOF _iS;DPLUM;D^CHID;DBAMBOO;DCHRYSkzEMUM;
    DSPRgG;EUMMj;DAUTUMN;DWgTj;DJOKj;DBACK;@1F030;0DOMgO ti H^IZnTd BACK;M-00-00;R1;R2;R3;R4;R5;
    R6;O1-00;R1;R2;R3;R4;R5;R6;O2-00;R1;R2;R3;R4;R5;R6;O3-00;R1;R2;R3;R4;R5;R6;O4-00;R1;R2;R3;
    R4;R5;R6;O5-00;R1;R2;R3;R4;R5;R6;O6-00;R1;R2;R3;R4;R5;R6;CVjtCd BACK;K-00-00;P1;P2;P3;P4;P5;
    P6;M1-00;P1;P2;P3;P4;P5;P6;M2-00;P1;P2;P3;P4;P5;P6;M3-00;P1;P2;P3;P4;P5;P6;M4-00;P1;P2;P3;
    P4;P5;P6;M5-00;P1;P2;P3;P4;P5;P6;M6-00;P1;P2;P3;P4;P5;P6;@1F0A0;0P.Y&CerBACK;DACyOFmPADES;
    DTWO OFmPADES;EHvyOFmPADES;DFOUR OFmPADES;EIVyOFmPADES;D=X OFmPADES;EEVs OFmPADES;
    DEf OFmPADES;DNgyOFmPADES;DTs OFmPADES;DJACK OFmPADES;DKNf OFmPADES;DQUEs OFmPADES;
    DK&OFmPADES;@1F0B1;DACyOF <eTS;DTWO OF <eTS;EHvyOF <eTS;DFOUR OF <eTS;EIVyOF <eTS;
    D=X OF <eTS;EEVs OF <eTS;DEf OF <eTS;DNgyOF <eTS;DTs OF <eTS;DJACK OF <eTS;DKNf OF <eTS;
    DQUEs OF <eTS;DK&OF <eTS;DvrJOKj;@1F0C1;DACyOF DIAMnDS;DTWO OF DIAMnDS;EHvyOF DIAMnDS;
    DFOUR OF DIAMnDS;EIVyOF DIAMnDS;D=X OF DIAMnDS;EEVs OF DIAMnDS;DEf OF DIAMnDS;
    DNgyOF DIAMnDS;DTs OF DIAMnDS;DJACK OF DIAMnDS;DKNf OF DIAMnDS;DQUEs OF DIAMnDS;
    DK&OF DIAMnDS;DB.CK JOKj;@1F0D1;DACyOF CLUBS;DTWO OF CLUBS;EHvyOF CLUBS;DFOUR OF CLUBS;
    EIVyOF CLUBS;D=X OF CLUBS;EEVs OF CLUBS;DEf OF CLUBS;DNgyOF CLUBS;DTs OF CLUBS;
    DJACK OF CLUBS;DKNf OF CLUBS;DQUEs OF CLUBS;DK&OF CLUBS;DWHITyJOKj;DFOOL;DTRUMP-1;J2;J3;J4;
    J5;J6;J7;J8;J9;J10;K1;K2;K3;K4;K5;K6;K7;K8;K9;J20;K1;@1F100;0DIGIT ZjO FULLmTOP;BCOMMA;
    6nyCOMMA;6TWO COMMA;7HvyCOMMA;6FOUR COMMA;7IVyCOMMA;6=X COMMA;7EVs COMMA;6Ef COMMA;
    6NgyCOMMA;2NGBAT _iDmkS-SjIF DIGIT ZjO;8NEGAtVy_iDmkS-SjIF DIGIT ZjO;0_irZjObS.SH;
    8ktCLOCKWISEl;8DOLLexbOVj.IrBACKS.SH;0PeszE=ZEr.Tg caA;ZB;ZC;ZD;ZE;ZF;ZG;ZH;ZI;ZJ;ZK;ZL;ZM",
   "ZN;ZO;ZP;ZQ;ZR;ZS;ZT;ZU;ZV;ZW;ZX;ZY;ZZ;0T^TOISEm<LL B+CKETEr.Tg caS;0_irITdIC .Tg caC;Z R;
    8CD;8WZ;1OPY*|;0SQUeEr.Tg caA;TB;TC;TD;TE;TF;TG;TH;TI;TJ;TK;TL;TM;TN;TO;TP;TQ;TR;TS;TT;TU;
    TV;TW;TX;TY;TZ;8HV;8MV;8SD;9S;8PPV;8WC;0NEGAtVy_ir.Tg caA;Zj B;Zj C;Zj D;Zj E;Zj F;Zj G;
    Zj H;Zj I;Zj J;Zj K;Zj L;Zj M;Zj N;Zj O;Zj P;Zj Q;Zj R;Zjm;Zj T;Zj U;Zj V;Zj W;Zj X;Zj Y;
    Zj Z;0+ISErMCx;8Dx;8Rx;0_irCC;9bOVj.IrBACKS.SH;8HUMk FIGUv;0NEGAtVEmQUeEr.Tg caA;Zj B;Zj C;
    Zj D;Zj E;Zj F;Zj G;Zj H;Zj I;Zj J;Zj K;Zj L;Zj M;Zj N;Zj O;Zj P;Zj Q;Zj R;Zjm;Zj T;Zj U;
    Zj V;Zj W;Zj X;Zj Y;Zj Z;0CROSSErNEGAtVEmQUeEr.Tg caP;0NEGAtVEmQUeErIC;HPA;HSA;HAB;HWC;
    0SQUeyDJ;6rCL;9OOL;8FvE;8ID;8NEW;9G;8OK;8SOS;8UPbEXC.MAtn MeK;8VS;8zvyD;8SECnDmCvs;8TWO K;
    8FOUR K;8Ef K;8FIVyPOgT nE;8SEVs POgT nE;8TWsTY-TWO POgT TWO;8=XTY P;8nyHUNDvrTWsTY P;
    8.TgmMdaD;8HC;9DR;9I-vS;8LOSSiSS;8SHV;8UHD;8VOD;0MASK W^K|;@1F1E6;0vGInd gDICAT^mYMBOaA;XB;
    XC;XD;XE;XF;XG;XH;XI;XJ;XK;XL;XM;XN;XO;XP;XQ;XR;XS;XT;XU;XV;XW;XX;XY;XZ;0SQUeyHI+GkA HOKA;
    6rKA>KkA KOKO;HSA;@1F210;8CJK UNIFIErIDEOG+PH-624B;U5B57;V3CC;8KA>KkA DE;
    8CJK UNIFIErIDEOG+PH-4E8C;U591A;U89E3;U5929;U4EA4;U6620;U7121;U6599;U524D;VF8C;V18D;U65B0;
    U521D;U7D42;V51F;U8CA9;U58F0;V439;U6F14;V295;V355;U4E00;X9;U904A;U5DE6;U4E2D;U53F3;U6307;
    U8D70;U6253;U7981;VA7A;U5408;U6E80;V709;X8;U7533;U5272;V5B6;U914D;@1F240;
    0T^TOISEm<LL B+CKETErCJK UNIFIErIDEOG+PH-672C;ZrIDEOG+PH-4E09;ZrIDEOG+PH-4E8C;
    ZrIDEOG+PH-5B89;ZrIDEOG+PH-70B9;ZrIDEOG+PH-6253;ZrIDEOG+PH-76D7;ZrIDEOG+PH-52DD;
    ZrIDEOG+PH-6557;@1F250;0_irIDEOG+PH ADVk>GE;JCCEPT;@1F260;0ROUNDED| F^ FU;JLU;JSHOU;JXI;
    JSHUkGXI;JCAI;@1F300;0CYCLnE;0FOGGY;0CLOSErUMBvL.;0NfbSTeS;0SUNRISyOVj MOUN>gS;6E;
    0CITYSCAPyAT DUSK;0SUNSET OVj BUILDgGS;0+gBOW;0BRIDGyAT Nf;0WATj WAVE;0VOLCkO;0MILKY WAY;
    0Eez GLOByEUROPE-AFRICA;CAMjICAS;D=A-AUSTRdIA;0GLOBEbMjIDIkS;0NEW MOn|;0WAX&CvSCsT MOn|;
    0FIRST QUeTj MOn|;0WAX&GIBBOUS MOn|;0FULL MOn|;0Wk&GIBBOUS MOn|;0.ST QUeTj MOn|;
    0Wk&CvSCsT MOn|;0CvSCsT MOn;0NEW MOnbFACE;0FIRST QUeTj MOnbFACE;0.ST QUeTj MOnbFACE;
    0FULL MOnbFACE;0SUNbFACE;0GLOWgGmTe;0SHOOTgGmTe;0zjMOMETj;0B.CK DROPiT;0WHITEmUN;
    9bSMdL CLOUD;ABEHgrCLOUD;Mb+g;0CLOUDb+g;BSNOW;BLfNgG;BT^NADO;0FOG;0WgrBLOW&FACE;0HOT DOG;
    0>CO;0BURRITO;0C<STNUT;0SEEDLgG;0EVjGvs TvE;0DECIDUOUS TvE;0PdM TvE;0CACTUS;0HOT PEPPj;
    0TULIP;0CHjRY BLOSSOM;0ROSE;0HIBISCUS;0SUNFLOWj;0BLOSSOM;0Ee OF MAIZE;7RICE;0HjB;
    0FOUR iAF CLOVj;0MAPi iAF;0FdiN iAF;0iAF FLUTTj&g WgD;0MUSHROOM;0TOMATO;0AUBjGgE;0G+PES;
    0MELn;0WATjMELn;0TkGjgE;0iMn;0BkkA;0PgEAPPi;0vrAPPi;0Gvs APPi;0PEe;3CH;0CHjRIES;0ST+WBjRY;
    0wMBURGj;0SLICyOF PIZZA;0MEAT n BnE;0POULTRY iG;0RICyC+CKj;5BdL;0COOKErRICE;1URRY?RICE;
    0STEAM&BOWL;1PAG<Tt;0BvAD;0FRsCH FRIES;0ROASTEDmWEET PO>TO;0DkGO;0ODs;0SUSHI;0FRIEDmHRIMP;
    1ISH CAKEbSWIRL DE=GN;0SOFT ICyCvAM;1wVErICE;0ICyCvAM;0DOUGHNUT;0COOKIE;1HOCO.TyBe;1kDY;
    0LOLLIPOP;0CUSTeD;0HnEY POT;0SH^TCAKE;0BsTO BOX;0POT OF FOOD;0COOKgG;0F^K?KNIFE;
    0TEACUP WIzOUT HkDi;0SAKyBOTTi?CUP;0WgyG.SS;0COCK>IL G.SS;0TROPICd DRgK;0BEj MUG;
    0CLgK&BEj MUGS;0BABY BOTTi;0F^K?KNIFEbP.TE;0BOTTibPOPP&C^K;0POPC^N;0RIBBn;0W+PPErPvSsT;
    0BIRzDAY CAKE;0JACK-O-LkTjN;0CHRISTMAS TvE;0FAzj CHRISTMAS;1IvW^KS;8mPeKiR;0BdLOn;
    0PeTY POPPj;0CnFETt BdL;0TkABA> TvE;0CROSSErF.GS;0PgyDECO+tn;0JAPkESyDOLLS;0CePmTvAMj;
    0WgrCHIME;0MOn VIEW&CjEMnY;0SCHOOLmATC<L;0G+DUAtn CAP;0<eTbtP n zy*;0BOUQUET OF FLOWjS;
    0MILITeY MEDd;0vMgDj RIBBn;0MU=Cd KEYBOeDbJACKS;0STUDIO MICROPHnE;0iVELmLIDj;0CnTROL KNOBS;
    0BEAMErASCsD&MU=Cd NOTES;7DESCsD&MU=Cd NOTES;0FILM F+MES;0ADMIS=n tCKETS;0CeOUSEL H^SE",
   "0FjRIS W<EL;0ROLiR COASTj;0FISH&POi?FISH;0MICROPHnE;1OVIyCAMjA;0CgEMA;0<ADPHnE;0etST PdETTE;
    0TOP wT;0_US TsT;0tCKET;0C.PPj BOeD;0PjF^M&eTS;0VIDEO GAME;0DIvCT HIT;0SLOT MACHgE;
    0BILLIeDS;0GAMyDIE;0BOWLgG;0FLOWj P.Y&CeDS;0MU=Cd NOTE;2LtPi MU=Cd NOTES;0SAXOPHnE;0GUITe;
    0MU=Cd KEYBOeD;0TRUMPET;0VIOLg;0MU=CdmCOv;0RUNNgGmHIRTbSASH;0TsNIS +CQUET?BdL;
    0SKI kDmKI BOOT;0BASKETBdL?HOOP;0C<QUjErF.G;0SNOWBOeDj;0RUNNj;0SURFj;1P^TS MEDd;0TROPHY;
    0H^Sy+CgG;0AMjICk FOOTBdL;0RUGBY FOOTBdL;0SWIMMj;0WEf LIFTj;0GOLFj;0+C&MOT^CYCi;7Ce;
    0CRICKET BAT?BdL;0VOLiYBdL;0FIELrHOCKEYmtCK?BdL;0ICyHOCKEYmtCK?PUCK;0>Bi TsNIS PADDi?BdL;
    0SNOW CAPPErMOUN>g;0CAMPgG;0BEACHbUMBvL.;1UILD&CnSTRUCtn;0HOUSyBUILDgGS;0CITYSCAPE;
    0DjELICT HOUSyBUILDgG;0C.S=Cd BUILDgG;0DESjT;6 ISLkD;0NAtnd PeK;0S>DIUM;0HOUSyBUILDgG;
    6WIz GeDs;0OFFICyBUILDgG;0JAPkESyPOST OFFICE;0EUROPEk POST OFFICE;0HOSPITd;0BkK;
    0AUTOMATErTELiR MACHgE;0HOTEL;0LOVyHOTEL;0CnVsIsCEmTOv;0SCHOOL;0DEPeTMsTmTOv;0FACT^Y;
    0IZAKAYA LkTjN;0JAPkESyCASTi;0EUROPEk CASTi;0WHITyPsNkT;0B.CK PsNkT;0WAV&WHITyF.G;7B.CK F.G;
    0ROSETTE;0B.CK ROSETTE;0.BEL;0BADMgTn +CQUET kDmHUTTiCOCK;1OW kDl;0AMPHO+;
    0EMOJI MODIFIj FITZPATRICK TYPE-1-2;W3;W4;W5;W6;0+T;0MOUSE;0OX;0WATj BUFFdO;0COW;0tGj;
    0iOPeD;0+BBIT;0CAT;0D+Gn;0CROCODIi;0WHdE;0SNAIL;3KE;0H^SE;0+M;0GOAT;0S<EP;0MnKEY;0ROOSTj;
    0CHICKs;0DOG;0PIG;0BOe;0EiPHkT;0OCTOPUS;0SPIRdm<LL;0BUG;0kT;0HnEYBEE;0.DY BEETi;0FISH;
    0TROPICd FISH;0BLOWFISH;0TURTi;0wTCH&CHICK;0BABY CHICK;0FRnT-FAC&BABY CHICK;0BIRD;0PsGUg;
    0KOdA;0POODi;0DROMEDeY CAMEL;0BACTRIk CAMEL;0DOLPHg;0MOUSyFACE;0COW FACE;0tGj FACE;
    0+BBIT FACE;0CAT FACE;0D+Gn FACE;0SPOUT&WHdE;0H^SyFACE;0MnKEY FACE;0DOG FACE;0PIG FACE;
    0FROG FACE;0wMSTj FACE;0WOLF FACE;0BEe FACE;0PkDA FACE;1IG NOSE;1AW PRgTS;0CHIPMUNK;0EYES;
    2E;1e;0NOSE;0MOUz;0TnGUE;0WHITyUP POgT&BACKHkrgDEX;6DOWN POgT&BACKHkrgDEX;
    6* POgT&BACKHkrgDEX;6Rf POgT&BACKHkrgDEX;0FISTErHkDx;0WAV&HkDx;0OK HkDx;0zUMBS UPx;7DOWNx;
    0C.PP&HkDSx;0OPs HkDSx;0CROWN;0WOMkS wT;0EYEG.SSES;0NECKtE;0T-SHIRT;0JEkS;0DvSS;0KIMnO;
    0BIKgI;0WOMkS CLOzES;0PURSE;0HkDBAG;0POUCH;0MkSmHOE;0AzitCmHOE;0HIGH-<EiDmHOE;0WOMkSmkDd;
    7BOOTS;0FOOTPRgTS;0BUST gmILHOUETTE;4S gmILHOUETTE;1OY;0GIRL;0Mk;0WOMk;0FAMILY;
    0Mk?WOMk HOLD&HkDS;0TWO Ms HOLD&HkDS;4WOMs HOLD&HkDS;0POLICyOFFICj;0WOMkbBUNNY EeS;
    0BRIDEbVEIL;0PjSnbBLnrwIR;0MkbGUA PI MAO;9TURBk;0OLDj Mk;6WOMk;0BABY;0CnSTRUCtn W^Kj;
    0PRgCESS;0JAPkESyOGv;9GOBLg;0GHOST;0BABY kGEL;0EXT+TjvSTRId dIs;0dIs MnSTj;0IMP;0SKULL;
    0gF^MAtn DESK PjSn;0GUeDSMk;0DkCj;0LIPStCK;0NAIL POLISH;0FACyMASSAGE;0wIRCUT;0BeBj POi;
    0SYRgGE;0PILL;0KISS MeK;0LOVyiTTj;0RgG;0GEMmTnE;0KISS;0BOUQUET;0COUPib<eT;0WEDDgG;0BEAT&<eT;
    1ROKs <eT;0TWO <eTS;0SPeKL&<eT;0GROW&<eT;0<eTbeROW;0BLUy<eT;0Gvs <eT;0YELLOW <eT;0PURPi <eT;
    0<eTbRIBBn;0vVOLV&<eTS;0<eT DECO+tn;0DIAMnDmwPEbA ~ g=DE;0EiCTRIC Lf BULB;0kGj|;0BOMB;
    0SiEPgG|;0COLLI=n|;0SP.SHgGmWEAT|;0DROPiT;1ASH|;0PIi OF POO;0FiXErBICEPS;0DIZZY|;
    0SPEECH BdLOn;0zOUGHT BdLOn;0WHITyFLOWj;0HUNDvrPOgTS|;0MnEY BAG;0CURRsCY EXCHkGE;
    0<AVY DOLLex;0CvDIT CeD;0BkKNOTEbYsx;EDOLLex;EEUROx;EPOUNDx;0MnEYbWgGS;0CHeTbUPu TRsrkrYsx;
    0SEAT;0PjSnd COMPUTj;0BRIEFCASE;0MgIDISC;0FLOPPY DISK;0OPtCd DISC;0DVD;0FIi FOLDj;
    0OPs FIi FOLDj;0PAGEbCURL;5FAC&UP;0CdsDe;0TEe-OFF CdsDe;0CergDEX;1HeTbUPu TRsD;BDOWNu TRsD;
    0Be CHeT;0CLIPBOeD;0PUSHPg;0ROUNrPUSHPg;0PAPjCLIP;0ST+f RUiR;0TRIkGULe RUiR;0BOOKMeK >BS;
    0iDGj;0NOTEBOOK;8bDECO+tVyCOVj;0CLOSErBOOK;0OPs BOOK;0Gvs BOOK;0BLUyBOOK;0^kGyBOOK;0BOOKS;
    0NAMyBADGE;0SCROLL;0MEMO;0TEiPHnyvCEIVj;0PAGj;0FAX MACHgE;0SATELLITykTsNA",
   "0PUBLIC ADDvSS LOUDSPEAKj;0C<j&MEGAPHnE;0OUTBOX T+Y;0gBOX T+Y;0PACKAGE;0E-MAIL|;
    0gCOM&sVELOPE;0sVELOPEbDOWNulo;0CLOSErMAILBOXbLOWjErF.G;K+ISErF.G;0OPs MAILBOXb+ISErF.G;
    ILOWjErF.G;0POSTBOX;4d H^N;0NEWSPAPj;0MOBIi PHnE;CbRful AT *;0VIB+tn MODE;0MOBIi PHnyOFF;
    0NO MOBIi PHnES;0kTsNAbBeS;0CAMjA;6bF.SH;0VIDEO CAMjA;0TEiVI=n;0+DIO;0VIDEOCASSETTE;
    0FILM PROJECT^;0P^>BimTjEO;1+Yj BEADS;0TWISTErRfulS;0CLOCKWISyRfu?*u OPs _ilS;
    ZOPs _ilSb_irnyOVj.Y;ADOWNu?UPu OPs _ilS;0ktCLOCKWISyDOWNu?UPu OPs _ilS;0LOW BRfNESS|;
    0HIGH BRfNESS|;0SPEAKjbCkCEL.tnmTROKE;6R;7bnEmOUNrWAVE;DzvEmOUNrWAVES;0BATTjY;0EiCTRIC PLUG;
    0*-POgT&MAGNIFY&G.SS;0Rf-POgT&MAGNIFY&G.SS;0LOCKbgK Ps;0CLOSErLOCKbKEY;0KEY;0LOCK;0OPs LOCK;
    0BELL;4bCkCEL.tnmTROKE;1OOKMeK;0LgK|;0+DIO BUTTn;0BACKb*ulo;0sDb*ulo;0nbEXC.MAtn MeKb* Rflo;
    0SOnbRfulo;0TOPbUPulo;0NO nyUNDj EfEs|;0KEYCAP Ts;0gPUT| F^ .Tg cL iTTjS;NSMdL iTTjS;
    HNUMBjS;HSYMBOLS;H.Tg iTTjS;0FIv;0EiCTRIC T^CH;0WRsCH;0wMMj;0NUT?BOLT;0HOCHO;0PISTOL;
    0MICROSCOPE;0TEiSCOPE;0CRYSTd BdL;0=X POgTEDmTebMIDDi ~;0JAPkESE| F^ BEGgNj;0TRIDsT EMBiM;
    0B.CKmQUeyBUTTn;0WHITEmQUeyBUTTn;0LeGyvr_i;6BLUy_i;6^kGyDIAMnD;6BLUyDIAMnD;0SMdL ^kGyDIAMnD;
    6BLUyDIAMnD;0UP-POgT&vrTRIkGi;0DOWN-POgT&vrTRIkGi;0UP-POgTgGmMdL vrTRIkGi;
    0DOWN-POgTgGmMdL vrTRIkGi;0LOWj RfmwDOWErWHITy_i;0UPPj RfmwDOWErWHITy_i;0_irCROSS POMMEE;
    1ROSS POMMEEbHdF-_i !;BE;0NOTC<r*mEMI_ibzvy~S;8RfmEMI_ibzvy~S;0SYMBOL F^ MeKS CwPTj;
    0WHITy.Tg CROSS;0<AVY .Tg CROSS;0CELtC CROSS;0OM|;0DOVyOF PEACE;0KAABA;0MOSQUE;0SYNAGOGUE;
    0MsO+HbNgyBRkC<S;0BOWL OF HYGIEIA;0CLOCK FACynyOCLOCK;BTWO OCLOCK;CHvyOCLOCK;BFOUR OCLOCK;
    CIVyOCLOCK;B=X OCLOCK;CEVs OCLOCK;BEf OCLOCK;BNgyOCLOCK;BTs OCLOCK;BEiVs OCLOCK;
    BTWELVyOCLOCK;BnE-zIRTY;BTWO-zIRTY;CHvE-zIRTY;BFOUR-zIRTY;CIVE-zIRTY;B=X-zIRTY;CEVs-zIRTY;
    BEf-zIRTY;BNgE-zIRTY;BTs-zIRTY;BEiVs-zIRTY;BTWELVE-zIRTY;0RfmPEAKj;DbnEmOUNrWAVE;
    JzvEmOUNrWAVES;0BULLH^N;8bSOUNrWAVES;0RgG&BELL;0BOOK;0CkDi;0MkTELPIECyCLOCK;
    0B.CKmKULL?CROSSBnES;0NO PI+CY;0HOi;0Mk g BUSgESSmUIT iVI>TgG;0SiUz ^mPY;0DeKmUNG.SSES;
    0SPIDj;6 WEB;0JOYStCK;0Mk DkCgG;0* HkrTEiPHnyvCEIVj;0TEiPHnyvCEIVjbPAGE;
    0Rf HkrTEiPHnyvCEIVj;0WHITyTOUCHTnyTEiPHnE;0B.CK TOUCHTnyTEiPHnE;0TEiPHnyn TOP OF MODEM;
    0C.MS<LL MOBIi PHnE;0BACK OF sVELOPE;0S>MPErsVELOPE;0sVELOPEbLfNgG;0FLY&sVELOPE;
    0Ps OVjm>MPErsVELOPE;0LgKErPAPjCLIPS;0B.CK PUSHPg;0LOWj * PsCIL;BBdLPOgT Ps;BFOUN>g Ps;
    BPAgTBRUSH;BC+Yn;1EFT WRIT&HkD;0TURNErOK HkDx;0+ISErHkDbFgGjSmP.YED;
    1EVjSEr+ISErHkDbFgGjSmP.YED;9zUMBS UPx;GDOWNx;9VICT^Y HkD;9HkDbMIDDi FgGj EXTsDED;
    1AISErHkDbPeT BETWEs MIDDi?R&FgGjS;0WHITyDOWN POgT&* HkrgDEX;0=DEWAYS WHITy* POgT&gDEX;
    FRf POgT&gDEX;9B.CK * POgT&gDEX;FRf POgT&gDEX;0B.CK * POgT&BACKHkrgDEX;6Rf POgT&BACKHkrgDEX;
    0=DEWAYS WHITyUP POgT&gDEX;FDOWN POgT&gDEX;9B.CK UP POgT&gDEX;FDOWN POgT&gDEX;
    0B.CK UP POgT&BACKHkrgDEX;6DOWN POgT&BACKHkrgDEX;6<eT;0DESKTOP COMPUTj;0KEYBOerkrMOUSE;
    0zvyNETW^KErCOMPUTjS;0PRgTj;1OCKET CdCU.T^;0B.CK HeDm<LL FLOPPY DISK;
    0WHITyHeDm<LL FLOPPY DISK;0SOFTm<LL FLOPPY DISK;0>PyCeTRIDGE;0WIvrKEYBOeD;0nyBUTTn MOUSE;
    0TWO BUTTn MOUSE;1HvyBUTTn MOUSE;1+CKBdL;0OLrPjSnd COMPUTj;0HerDISK;0SCvs;0PRgTj ICn;
    0FAX ICn;0OPtCd DISC ICn;0DOCUMsTbTEXT;I?PICTUv;EPICTUv;0F+MEbPICTUv;BtiS;Bk X;0B.CK FOLDj;
    0FOLDj;0OPs FOLDj;0CergDEX DIVIDjS;5FIi BOX;0FIi CABgET;0EMPTY NOTE;A PAGE;DD;0NOTE;4 PAGE;
    7D;0EMPTY DOCUMsT;6PAGE;AS;0DOCUMsT;0PAGE;4S;0WASTEBASKET;0SPIRd NOTyPAD;7CdsDe PAD;
    0DESKTOP WgDOW;0MgIMIZE;1AXIMIZE;0OVj.P;0CLOCKWISyRf?*mEMI_ilS;1kCEL.tn X;0gCvASyFnTmIZE|",
   "0DECvASyFnTmIZE|;0COMPvS=n;0OLrKEY;0ROLiD-UP NEWSPAPj;0PAGEb_irTEXT;0STOCK CHeT;
    0DAGGj KNIFE;0LIPS;0SPEAK&<ArgmILHOUETTE;0zvy+YSo;B!;B*;BRf;0*mPEECH BUBBi;0RfmPEECH BUBBi;
    0TWOmPEECH BUBBiS;1HvEmPEECH BUBBiS;0* zOUGHT BUBBi;0Rf zOUGHT BUBBi;0* kGj BUBBi;
    0Rf kGj BUBBi;0MOOrBUBBi;0LfN&MOOrBUBBi;DD;0BdLOT BOXbBdLOT;7SCRIPT X;7BOXbSCRIPT X;
    9LDmCRIPT X;9XbBOLDmCRIPT X;0Lf C<CK MeK;0BdLOT BOXbBOLrC<CK;0W^LrMAP;0MOUNT FUJI;
    0TOKYO TOWj;0S>TUyOF LIBjTY;1ILHOUETTyOF JAPk;0MOYAI;0GRgN&FACE;DbSMIL&EYES;
    0FACEbTEeS OF JOY;0SMIL&FACEbOPs MOUz;S kDmMIL&EYES;XCOLDmWEAT;XTfLY-CLOSErEYES;IHdO;J^NS;
    0WgK&FACE;0SMIL&FACEbSMIL&EYES;0FACEmAVOUR&DELICIOUS FOOD;0vLIEVErFACE;
    0SMIL&FACEb<eT-SwPErEYES;ISUNG.SSES;3RK&FACE;0NEUTRd FACE;0EXPvS=niSS FACE;0UNAMUSErFACE;
    0FACEbCOLDmWEAT;0Ps=VyFACE;0CnFUSErFACE;4OUNDErFACE;0KISS&FACE;0FACyzROW&A KISS;
    0KISS&FACEbSMIL&EYES;ICLOSErEYES;0FACEbSTUCK-OUT TnGUE;Q?WgK&EYE;VTfLY-CLOSErEYES;
    0DISAPPOgTErFACE;0W^RIErFACE;0kGRY FACE;0POUT&FACE;0CRY&FACE;0PjSEVj&FACE;
    0FACEbLOOK OF TRIUMPH;0DISAPPOgTErBUT vLIEVErFACE;0FROWN&FACEbOPs MOUz;0kGUIS<rFACE;
    0FEeFUL FACE;0WEeY FACE;0SiEPY FACE;0tvrFACE;0GRIMAC&FACE;0LOUDLY CRY&FACE;0FACEbOPs MOUz;
    0HUS<rFACE;0FACEbOPs MOUz?COLDmWEAT;5SCvAM&g FEe;0ASTnIS<rFACE;0FLUS<rFACE;0SiEP&FACE;
    0DIZZY FACE;0FACyWIzOUT MOUz;9 MEDICd MASK;0GRgN&CAT FACEbSMIL&EYES;0CAT FACEbTEeS OF JOY;
    0SMIL&CAT FACEbOPs MOUz;M<eT-SwPErEYES;0CAT FACEbWRYmMIi;0KISS&CAT FACEbCLOSErEYES;
    0POUT&CAT FACE;0CRY&CAT FACE;0WEeY CAT FACE;0SLfLY FROWN&FACE;9SMIL&FACE;0UP=DE-DOWN FACE;
    0FACEbROLL&EYES;ANO GOOrGESTUv;AOK GESTUv;0PjSn BOW&DEEPLY;0SEE-NO-EVIL MnKEY;
    0<e-NO-EVIL MnKEY;0SPEAK-NO-EVIL MnKEY;0wPPY PjSn +IS&nyHkD;0PjSn +IS&BOz HkDS g CEiB+tn;
    7FROWNgG;7WIz POUT&FACE;CFOLDErHkDS;0N^z WEST POgT&iAF;0SOUz WEST POgT&iAF;
    0N^z EAST POgT&iAF;0SOUz EAST POgT&iAF;0TURNErN^z WEST POgT&iAF;7SOUz WEST POgT&iAF;
    7N^z EAST POgT&iAF;7SOUz EAST POgT&iAF;0N^z WEST POgT&VgyiAF;0SOUz WEST POgT&VgyiAF;
    0N^z EAST POgT&VgyiAF;0SOUz EAST POgT&VgyiAF;0<AVY N^z WEST POgT&VgyiAF;
    6SOUz WEST POgT&VgyiAF;6N^z EAST POgT&VgyiAF;6SOUz EAST POgT&VgyiAF;0N^z WEST POgT&BUD;
    0SOUz WEST POgT&BUD;0N^z EAST POgT&BUD;0SOUz EAST POgT&BUD;0<AVY N^z WEST POgT&BUD;
    6SOUz WEST POgT&BUD;6N^z EAST POgT&BUD;6SOUz EAST POgT&BUD;1OLLOW QUILTmQUey^NAMsT;
    S g B.CKmQUeE;0SOLIrQUILTmQUey^NAMsT;R g B.CKmQUeE;0*u ROCKET;0UPu ROCKET;0Rfu ROCKET;
    0DOWNu ROCKET;0SCRIPT LIGATUv ET ^NAMsT;0<AVYmCRIPT LIGATUv ET ^NAMsT;
    0LIGATUv OPs ET ^NAMsT;0<AVY LIGATUv OPs ET ^NAMsT;6AMPjSkr^NAMsT;0SWASH AMPjSkr^NAMsT;
    1kS-SjIF <AVY % TURNErCOMMA QUO>tn MeK ^NAMsT;OCOMMA QUO>tn MeK ^NAMsT;
    HLOW % COMMA QUO>tn MeK ^NAMsT;0<AVY gTjROBkG ^NAMsT;0SkS-SjIF gTjROBkG ^NAMsT;
    0<AVYmkS-SjIF gTjROBkG ^NAMsT;0VjY <AVYmOLIDUS;BvVjSEmOLIDUS;0C<CKj BOeD;0vVjSyC<CKj BOeD;
    1OCKET;0<LICOPTj;0STEAM LOCOMOtVE;0+ILWAY Ce;0HIGH-SPEErT+g;GbBULiT NOSE;0T+g;0METRO;
    0Lf +IL;0S>tn;0T+M;4 Ce;0BUS;0nCOM&BUS;0TROLiYBUS;0BUSmTOP;0MgIBUS;0AMBULkCE;0FIv sGgE;
    0POLICyCe;0nCOM&POLICyCe;0>XI;0nCOM&>XI;0AUTOMOBIi;0nCOM&AUTOMOBIi;0vCvAtnd VEHICi;
    0DELIVjY TRUCK;0etCU.TErL^RY;0T+CT^;0MnO+IL;2UN>g +ILWAY;0SUSPs=n +ILWAY;0MOUN>g CABiWAY;
    0AjId T+MWAY;0SHIP;0ROWBOAT;0SPEEDBOAT;0H^IZnTd T+FFIC Lf;0VjtCd T+FFIC Lf;0CnSTRUCtnx;
    0POLICyCeS vVOLV&Lf;0TRIkGULe F.G n POST;0DO^;0NO sTRYx;0SMOKgG|;0NOmMOKgG|;
    0PUT LITTj g ITS P.CE|;0DO NOT LITTj|;0PO>Bi WATj|;0Nn-PO>Bi WATj|;0BICYCi;0NO BICYCiS",
   "0BICYCLIST;0MOUN>g BICYCLIST;0PEDESTRIk;0NO PEDESTRIkS;0CHILDRs CROSSgG;0MsS|;0WOMsS|;
    0vSTROOM;0BABY|;0TOIiT;0WATj CLOSET;0SHOWj;0BAz;4TUB;0PASSP^T CnTROL;0CUSTOMS;0BAGGAGyC.IM;
    0* LUGGAGE;0TRIkGibROUNDErC^NjS;0PROHIBITEDx;0_irgF^MAtnmOURCE;0BOYS|;0GIRLS|;0COUCH?.MP;
    0SiEP&ACCOMMODAtn;1HOPP&BAGS;0BELLHOP BELL;2D;0P.CyOF W^SHIP;0OC>Gndx;0SHOPP&TROLiY;1TUPA;
    0PAGODA;0HgDU TEMPi;1UT;0EiVAT^;@1F6DD;0P.YGROUNDmLIDE;0W<EL;0R&BUOY;0wMMj?WRsCH;0SHIELD;
    0OIL DRUM;0MOT^WAY;0+ILWAY T+CK;0MOT^ BOAT;0UP-POgT&MILITeY AIRPLkE;CAIRPLkE;CSMdL AIRPLkE;
    0SMdL AIRPLkE;0N^zEAST-POgT&AIRPLkE;0AIRPLkyDEPeTUv;9eRIVgG;@1F6F0;0SATELLITE;
    0nCOM&FIv sGgE;0DIESEL LOCOMOtVE;0PASSsGjmHIP;0SCOOTj;0MOT^mCOOTj;0CkOE;0SiD;0FLYgGmAUCj;
    0SKATEBOeD;0AUTO RICKSwW;0PICKUP TRUCK;0ROLiRmKATE;@1F700;0dC<MICd| F^ QUgTESSsCE;MAIR;MFIv;
    MEez;MWATj;MAQUAF^tS;Q vGIA;W-2;RVI>E;W-2;MVgEGe;T-2;U3;MSULFUR;MPHILOSOPHjSmULFUR;
    MB.CKmULFUR;MMjCURYmUBLIMATE;ZMATE-2;ZMATE-3;MCgNABe;MSdT;MNITv;MVITRIOL;T-2;MROCKmdT;V-2;
    MGOLD;M=LVj;MIRn Ov;U-2;MCROCUS OF IRn;MvGULUS OF IRn;MCOPPj Ov;MIRn-COPPj Ov;
    MSUBLIMATyOF COPPj;MCROCUS OF COPPj;ZPj-2;NOPPj ktMnIATE;MSdT OF COPPj ktMnIATE;
    NUBLIMATyOFmdT OF COPPj;MVjDIGRIS;MTg Ov;MiArOv;MktMnY Ov;MSUBLIMATyOF ktMnY;NdT OF ktMnY;
    NUBLIMATyOFmdT OF ktMnY;MVgEGe OF ktMnY;MvGULUS OF ktMnY;ZtMnY-2;SS;T-2;U3;U4;MdKdI;S-2;
    MMeCA=TE;MSd-AMMnIAC;MeSsIC;MvdGe;T-2;MAURIPIGMsT;MBISMUz Ov;MTeTe;S-2;MQUICK LIME;MBO+X;
    R-2;S3;MdUM;MOIL;MSPIRIT;MTgCTUv;MGUM;MWAX;MPOWDj;MCdX;MTUTTY;MCAPUT M^TUUM;MSCEPTj OF JOVE;
    MCADUCEUS;MTRIDsT;MSTevrTRIDsT;MLODESTnE;MSOAP;MURgE;MH^SyDUNG;MAS<S;MPOT AS<S;MBRICK;
    MPOWDjErBRICK;MAMdGAM;MST+TUMmUPjmT+TUM;ZmT+TUM-2;NUBLIMAtn;MPvCIPI>TE;MDIStLL;PSOLVE;U-2;
    MPURIFY;OTvFACtn;MCRUCIBi;U-2;V3;V4;V5;MdEMBIC;MBAz OF MeY;UVAPOURS;MvT^T;MHOUR;MNf;MDAY-Nf;
    MMnz;MHdF D+M;ROUNCE;@1F780;0B.CK *-POgT&ISOSCEiS Rf TRIkGi;6UP-POgT&ISOSCEiS Rf TRIkGi;
    6Rf-POgT&ISOSCEiS Rf TRIkGi;6DOWN-POgT&ISOSCEiS Rf TRIkGi;6SLfLYmMdL _i;0MEDIUM BOLrWHITy_i;
    0BOLrWHITy_i;0<AVY WHITy_i;0VjY <AVY WHITy_i;0EXTvMELY <AVY WHITy_i;
    0WHITy_i Cn>g&B.CKmMdL _i;0ROUNrTeGET;0B.CK TgYmQUeE;6SLfLYmMdLmQUeE;0Lf WHITEmQUeE;
    0MEDIUM WHITEmQUeE;0BOLrWHITEmQUeE;0<AVY WHITEmQUeE;0VjY <AVY WHITEmQUeE;
    0EXTvMELY <AVY WHITEmQUeE;0WHITEmQUeyCn>g&B.CK VjYmMdLmQUeE;UMEDIUMmQUeE;0SQUeyTeGET;
    0B.CK TgY DIAMnD;6VjYmMdL DIAMnD;6MEDIUMmMdL DIAMnD;0WHITyDIAMnrCn>g&B.CK VjYmMdL DIAMnD;
    VMEDIUM DIAMnD;0DIAMnrTeGET;0B.CK TgY LOZsGE;6VjYmMdL LOZsGE;6MEDIUMmMdL LOZsGE;
    0WHITyLOZsGyCn>g&B.CKmMdL LOZsGE;0zg GvEK CROSS;0Lf GvEK CROSS;0MEDIUM GvEK CROSS;
    0BOLrGvEK CROSS;0VjY BOLrGvEK CROSS;5<AVY GvEK CROSS;0EXTvMELY <AVY GvEK CROSS;0zgmdtv;
    0Lfmdtv;0MEDIUMmdtv;0BOLDmdtv;0<AVYmdtv;0VjY <AVYmdtv;0EXTvMELY <AVYmdtv;
    0Lf FIVEmPOKErASTjISK;0MEDIUM FIVEmPOKErASTjISK;0BOLrFIVEmPOKErASTjISK;
    0<AVY FIVEmPOKErASTjISK;0VjY <AVY FIVEmPOKErASTjISK;0EXTvMELY <AVY FIVEmPOKErASTjISK;
    0LfmIXmPOKErASTjISK;0MEDIUMmIXmPOKErASTjISK;0BOLDmIXmPOKErASTjISK;0<AVYmIXmPOKErASTjISK;
    0VjY <AVYmIXmPOKErASTjISK;0EXTvMELY <AVYmIXmPOKErASTjISK;0Lf EfmPOKErASTjISK;
    0MEDIUM EfmPOKErASTjISK;0BOLrEfmPOKErASTjISK;0<AVY EfmPOKErASTjISK;
    0VjY <AVY EfmPOKErASTjISK;0Lf zvyPOgTErB.CKmTe;0MEDIUM zvyPOgTErB.CKmTe;0zvyPOgTErB.CKmTe;
    0MEDIUM zvyPOgTErPgW<ELmTe;0Lf FOUR POgTErB.CKmTe;0MEDIUM FOUR POgTErB.CKmTe;
    0FOUR POgTErB.CKmTe;0MEDIUM FOUR POgTErPgW<ELmTe;0vVjSyLf FOUR POgTErPgW<ELmTe;
    0Lf FIVyPOgTErB.CKmTe;0<AVY FIVyPOgTErB.CKmTe;0MEDIUMmIX POgTErB.CKmTe",
   "0<AVYmIX POgTErB.CKmTe;0=X POgTErPgW<ELmTe;0MEDIUM Ef POgTErB.CKmTe;0<AVY Ef POgTErB.CKmTe;
    0VjY <AVY Ef POgTErB.CKmTe;0<AVY Ef POgTErPgW<ELmTe;0Lf TWELVyPOgTErB.CKmTe;
    0<AVY TWELVyPOgTErB.CKmTe;LPgW<ELmTe;0_irTRIkGi;0NEGAtVy_irTRIkGi;0_iDmQUeE;
    0NEGAtVy_iDmQUeE;@1F7E0;0LeGy^kGy_i;6YELLOW _i;6Gvs _i;6PURPi _i;6BROWN _i;6vDmQUeE;
    6BLUEmQUeE;6^kGEmQUeE;6YELLOWmQUeE;6GvsmQUeE;6PURPimQUeE;6BROWNmQUeE;@1F7F0;0<AVY EQUdSx;
    @1F800;0*ulbSMdL TRIkGil<AD;0UPulbSMdL TRIkGil<AD;0RfulbSMdL TRIkGil<AD;
    0DOWNulbSMdL TRIkGil<AD;0*ulbMEDIUM TRIkGil<AD;0UPulbMEDIUM TRIkGil<AD;
    0RfulbMEDIUM TRIkGil<AD;0DOWNulbMEDIUM TRIkGil<AD;0*ulbLeGyTRIkGil<AD;0UPulbLeGyTRIkGil<AD;
    0RfulbLeGyTRIkGil<AD;0DOWNulbLeGyTRIkGil<AD;@1F810;0*ulbSMdL EQUI.Tjdl<AD;
    0UPulbSMdL EQUI.Tjdl<AD;0RfulbSMdL EQUI.Tjdl<AD;0DOWNulbSMdL EQUI.Tjdl<AD;0*ulbEQUI.Tjdl<AD;
    0UPulbEQUI.Tjdl<AD;0RfulbEQUI.Tjdl<AD;0DOWNulbEQUI.Tjdl<AD;0<AVY *ulbEQUI.Tjdl<AD;
    6UPulbEQUI.Tjdl<AD;6RfulbEQUI.Tjdl<AD;6DOWNulbEQUI.Tjdl<AD;6*ulbLeGyEQUI.Tjdl<AD;
    6UPulbLeGyEQUI.Tjdl<AD;6RfulbLeGyEQUI.Tjdl<AD;6DOWNulbLeGyEQUI.Tjdl<AD;
    0*u TRIkGi-<ADEDlbNeROWmwFT;0UPu TRIkGi-<ADEDlbNeROWmwFT;0Rfu TRIkGi-<ADEDlbNeROWmwFT;
    0DOWNu TRIkGi-<ADEDlbNeROWmwFT;0*u TRIkGi-<ADEDlbMEDIUMmwFT;0UPu TRIkGi-<ADEDlbMEDIUMmwFT;
    0Rfu TRIkGi-<ADEDlbMEDIUMmwFT;0DOWNu TRIkGi-<ADEDlbMEDIUMmwFT;0*u TRIkGi-<ADEDlbBOLDmwFT;
    0UPu TRIkGi-<ADEDlbBOLDmwFT;0Rfu TRIkGi-<ADEDlbBOLDmwFT;0DOWNu TRIkGi-<ADEDlbBOLDmwFT;
    0*u TRIkGi-<ADEDlb<AVYmwFT;0UPu TRIkGi-<ADEDlb<AVYmwFT;0Rfu TRIkGi-<ADEDlb<AVYmwFT;
    0DOWNu TRIkGi-<ADEDlb<AVYmwFT;0*u TRIkGi-<ADEDlbVjY <AVYmwFT;
    0UPu TRIkGi-<ADEDlbVjY <AVYmwFT;0Rfu TRIkGi-<ADEDlbVjY <AVYmwFT;
    0DOWNu TRIkGi-<ADEDlbVjY <AVYmwFT;0*u FgGj-POSTl;0UPu FgGj-POSTl;0Rfu FgGj-POSTl;
    0DOWNu FgGj-POSTl;0*umQUeEDl;0UPumQUeEDl;0RfumQUeEDl;0DOWNumQUeEDl;0*u COMPvSSEDl;
    0UPu COMPvSSEDl;0Rfu COMPvSSEDl;0DOWNu COMPvSSEDl;0*u <AVY COMPvSSEDl;0UPu <AVY COMPvSSEDl;
    0Rfu <AVY COMPvSSEDl;0DOWNu <AVY COMPvSSEDl;0*u <AVYl;0UPu <AVYl;0Rfu <AVYl;0DOWNu <AVYl;
    @1F850;0*umkS-SjIFl;0UPumkS-SjIFl;0RfumkS-SjIFl;0DOWNumkS-SjIFl;0N^z WESTmkS-SjIFl;
    6EASTmkS-SjIFl;0SOUz EASTmkS-SjIFl;6WESTmkS-SjIFl;0* RfmkS-SjIFl;0UP DOWNmkS-SjIFl;@1F860;
    0WIDE-<ADEr*u Lf BeBl;CUPu Lf BeBl;CRfu Lf BeBl;CDOWNu Lf BeBl;CN^z WEST Lf BeBl;
    IEAST Lf BeBl;CSOUz EAST Lf BeBl;IWEST Lf BeBl;C*u BeBl;CUPu BeBl;CRfu BeBl;CDOWNu BeBl;
    CN^z WEST BeBl;IEAST BeBl;CSOUz EAST BeBl;IWEST BeBl;C*u MEDIUM BeBl;CUPu MEDIUM BeBl;
    CRfu MEDIUM BeBl;CDOWNu MEDIUM BeBl;CN^z WEST MEDIUM BeBl;IEAST MEDIUM BeBl;
    CSOUz EAST MEDIUM BeBl;IWEST MEDIUM BeBl;C*u <AVY BeBl;CUPu <AVY BeBl;CRfu <AVY BeBl;
    CDOWNu <AVY BeBl;CN^z WEST <AVY BeBl;IEAST <AVY BeBl;CSOUz EAST <AVY BeBl;IWEST <AVY BeBl;
    C*u VjY <AVY BeBl;CUPu VjY <AVY BeBl;CRfu VjY <AVY BeBl;CDOWNu VjY <AVY BeBl;
    CN^z WEST VjY <AVY BeBl;IEAST VjY <AVY BeBl;CSOUz EAST VjY <AVY BeBl;IWEST VjY <AVY BeBl;
    @1F890;0*u TRIkGil<AD;0UPu TRIkGil<AD;0Rfu TRIkGil<AD;0DOWNu TRIkGil<AD;
    0*u WHITEl WIzg TRIkGil<AD;0UPu WHITEl WIzg TRIkGil<AD;0Rfu WHITEl WIzg TRIkGil<AD;
    0DOWNu WHITEl WIzg TRIkGil<AD;0*ulbNOTC<r>IL;0UPulbNOTC<r>IL;0RfulbNOTC<r>IL;
    0DOWNulbNOTC<r>IL;0<AVYlmwFT WIDz nE;OTWO zIRDS;OnyHdF;SzIRD;0*u BOTTOM-SwDErWHITEl;
    0Rfu BOTTOMmwDErWHITEl;0*u TOPmwDErWHITEl;0Rfu TOPmwDErWHITEl;0*u *-SwDErWHITEl;
    0Rfu Rf-SwDErWHITEl;0*u Rf-SwDErWHITEl;0Rfu *-SwDErWHITEl;0*u BACK-tLTEDmwDOWErWHITEl",
   "0Rfu BACK-tLTEDmwDOWErWHITEl;0*u FRnT-tLTEDmwDOWErWHITEl;0Rfu FRnT-tLTEDmwDOWErWHITEl;
    0WHITElmwFT WIDz nE;OTWO zIRDS;@1F8B0;0eROW POgT&UPu zs N^z WEST;FRfu zs CURVgGmOUz WEST;
    @1F900;0_irCROSShEEbFOUR ~S;QTWO ~S;JE;0* HdF _ibFOUR ~S;Mzvy~S;NWO ~S;M~;FE;
    0DOWNWerFAC&HOOK;GNOTC<rHOOK;GHOOKb~;GNOTC<rHOOKb~;0PgC<rFgGjS;0WHITy<eT;0BROWN <eT;
    0PgCH&HkD;0ZIPPj-MOUz FACE;0MnEY-MOUz FACE;0FACEbzjMOMETj;0NjrFACE;0zgK&FACE;
    0FACEb<AD-BkDAGE;0ROBOT FACE;0HUGG&FACE;0=GN OF zyH^NS;0CdL MyHkD;0+ISErBACK OF HkD;
    0*-FAC&FIST;0Rf-FAC&FIST;0HkDSwKE;4bgDEX?MIDDi FgGjS CROSSED;0I LOVyYOU HkDx;
    0FACEbCOWBOY wT;0CLOWN FACE;0NAUSEATErFACE;0ROLL&n zyFLO^ .UGHgG;0DROOL&FACE;0LY&FACE;
    0FACyPdM;0SNEEZ&FACE;0FACEbnyEYEBROW +ISED;0GRgN&FACEbSTe EYES;JnyLeGykrnEmMdL EYE;
    0FACEbFgGj COVj&CLOSErLIPS;0SjIOUS FACEbSYMBOLS COVj&MOUz;1MIL&FACEbSMIL&EYES?HkrCOVj&MOUz;
    0FACEbOPs MOUz VOMITgG;0SHOCKErFACEbEXPLOD&<AD;0PvGNkT WOMk;0BvAST-FEEDgG;0PdMS UP TOGEzj;
    0SELFIE;0PRgCE;0Mk g TUXEDO;1Ozj CHRISTMAS;0SHRUG;0PjSn DO&CeTW<EL;0JUGGLgG;0FsCj;
    0MODjN Ps>zLn;0WvSTiRS;1ATj POLO;0HkDBdL;0DIV&MASK;0WILTErFLOWj;0DRUMbDRUMStCKS;
    0CLgK&G.SSES;0TUMBiR G.SS;0SPOn;0GOd NET;0RIFi;0FIRST P.CyMEDd;0SECnrP.CyMEDd;0zIRrP.CyMEDd;
    0BOX&GLOVE;0Metd eTS UNIF^M;0CURLgGmTnE;0.CROSSEmtCK?BdL;0SOFTBdL;0FLY&DISC;0CROISSkT;
    0AVOCADO;0CUCUMBj;0BACn;0PO>TO;0CeROT;0BAGUETTyBvAD;0GvsmdAD;0SHdLOW Pk OF FOOD;
    1TUFFErF.TBvAD;0EGG;0G.SS OF MILK;0PEkUTS;0KIWIFRUIT;0PkCAKES;0DUMPLgG;0F^TUNyCOOKIE;
    0>KEOUT BOX;0CHOPStCKS;0BOWLbSPOn;0CUPbST+W;1OCnUT;0BROCCOLI;0PIE;1vTZEL;0CUT OF MEAT;
    0SkDWICH;0CkNErFOOD;0iAFY Gvs;0MkGO;1On CAKE;0BAGEL;0SMIL&FACEbSMIL&EYES?zvy<eTS;0YAWN&FACE;
    0SMIL&FACEbTEe;0FACEbPeTY H^N?PeTY wT;AUNEVs EYES?WAVY MOUz;0OVj<ATErFACE;0FvEZ&FACE;0NgJA;
    0DISGUISErFACE;0FACyHOLD&BACK TEeS;5WIz PiAD&EYES;0SeI;0.B COAT;0GOGGiS;0HIK&BOOT;0F.TmHOE;
    0C+B;0LIn FACE;0SC^PIn;0TURKEY;0UNIC^N FACE;0EAGi;0DUCK;0BAT;0SHeK;0OWL;0FOX FACE;0BUTTjFLY;
    0DEj;0G^IL.;0LIZeD;0RHgOCjOS;0SHRIMP;1QUID;0GI+FFyFACE;0ZEB+ FACE;0<DGEHOG;0SAUROPOD;0T-vX;
    0CRICKET;0KkGeOO;0L.MA;0PEACOCK;0HIPPOPO>MUS;0PeROT;0+CCOn;0LOBSTj;0MOSQUITO;1ICROBE;0BADGj;
    0SWk;0MAMMOz;0DODO;0SLOz;0OTTj;1RkGUTk;0SKUNK;0F.MgGO;0OYSTj;0BEAVj;1ISn;0SEd;0GUIDyDOG;
    0PROB&CkE;0EMOJI COMPnsT vrwIR;GCURLY wIR;GBdD;GWHITywIR;0BnE;0iG;0FOOT;0TOOz;0SUPjHjO;
    5VIL.g;1AFETY VEST;0Eeb<e&AID;0MOT^IZErW<ELCwIR;1kUd W<ELCwIR;1ECHkICd eM;BiG;0C<ESyWEDGE;
    1UPCAKE;0SdTmwKj;0BEVjAGyBOX;0GeLIC;0nIn;0FdAFEL;0WAFFi;0BUTTj;0MATyDRgK;0ICyCUBE;
    0BUBBi TEA;0TROLL;0STkD&PjSn;0KNEEL&PjSn;0DEAF PjSn;0FACEbMnOCi;0ADULT;0CHILD;0OLDj ADULT;
    0BEeDErPjSn;0PjSnb<ADSCeF;7gmTEAMY ROOM;7CLIMBgG;7g LOTUS PO=tn;0MAGE;0FAIRY;0VAMPIv;
    0MjPjSn;0ELF;0GsIE;0ZOMBIE;0B+g;0^kGy<eT;0BILirCAP;0SCeF;0GLOVES;0COAT;0SOCKS;
    0vrGIFT sVELOPE;0FIvC+CKj;0JIGSAW PUZZi PIECE;0TEST TUBE;0PETRI DISH;0DNA % <LIX;0COMPASS;
    0ABACUS;0FIv EXTgGUISHj;0TOOLBOX;0BRICK;0MAGNET;0LUGGAGE;1Otn BOTTi;0SPOOL OF zvAD;
    0BdL OF YeN;0SAFETY Pg;0TEDDY BEe;0BROOM;1ASKET;0ROLL OF PAPj;0Be OFmOAP;0SPnGE;0vCEIPT;
    0NAZe AMUiT;1EUTRd C<SS KgG;EQUEs;EROOK;EBISHOP;EKNf;EPAWN;
    0WHITyC<SS KNf RO>TErF^TY-FIVyDEGvES;0B.CK C<SS KNf RO>TErF^TY-FIVyDEGvES;
    0NEUTRd C<SS KNf RO>TErF^TY-FIVyDEGvES;0WHITyC<SS K&RO>TErNgETY DEGvES;
    CQUEs RO>TErNgETY DEGvES;CROOK RO>TErNgETY DEGvES;CBISHOP RO>TErNgETY DEGvES;
    CKNf RO>TErNgETY DEGvES;CPAWN RO>TErNgETY DEGvES;0B.CK C<SS K&RO>TErNgETY DEGvES;
    CQUEs RO>TErNgETY DEGvES;CROOK RO>TErNgETY DEGvES;CBISHOP RO>TErNgETY DEGvES",
   "CKNf RO>TErNgETY DEGvES;CPAWN RO>TErNgETY DEGvES;0NEUTRd C<SS K&RO>TErNgETY DEGvES;
    EQUEs RO>TErNgETY DEGvES;EROOK RO>TErNgETY DEGvES;EBISHOP RO>TErNgETY DEGvES;
    EKNf RO>TErNgETY DEGvES;EPAWN RO>TErNgETY DEGvES;
    0WHITyC<SS KNf RO>TErnyHUNDvrzIRTY-FIVyDEGvES;0B.CK C<SS KNf RO>TErnyHUNDvrzIRTY-FIVyDEGvES;
    0NEUTRd C<SS KNf RO>TErnyHUNDvrzIRTY-FIVyDEGvES;0WHITyC<SS TURNErKgG;JQUEs;JROOK;JBISHOP;
    JKNf;JPAWN;0B.CK C<SS TURNErKgG;JQUEs;JROOK;JBISHOP;JKNf;JPAWN;0NEUTRd C<SS TURNErKgG;LQUEs;
    LROOK;LBISHOP;LKNf;LPAWN;0WHITyC<SS KNf RO>TErTWO HUNDvrTWsTY-FIVyDEGvES;
    0B.CK C<SS KNf RO>TErTWO HUNDvrTWsTY-FIVyDEGvES;
    0NEUTRd C<SS KNf RO>TErTWO HUNDvrTWsTY-FIVyDEGvES;
    0WHITyC<SS K&RO>TErTWO HUNDvDmEVsTY DEGvES;CQUEs RO>TErTWO HUNDvDmEVsTY DEGvES;
    CROOK RO>TErTWO HUNDvDmEVsTY DEGvES;CBISHOP RO>TErTWO HUNDvDmEVsTY DEGvES;
    CKNf RO>TErTWO HUNDvDmEVsTY DEGvES;CPAWN RO>TErTWO HUNDvDmEVsTY DEGvES;
    0B.CK C<SS K&RO>TErTWO HUNDvDmEVsTY DEGvES;CQUEs RO>TErTWO HUNDvDmEVsTY DEGvES;
    CROOK RO>TErTWO HUNDvDmEVsTY DEGvES;CBISHOP RO>TErTWO HUNDvDmEVsTY DEGvES;
    CKNf RO>TErTWO HUNDvDmEVsTY DEGvES;CPAWN RO>TErTWO HUNDvDmEVsTY DEGvES;
    0NEUTRd C<SS K&RO>TErTWO HUNDvDmEVsTY DEGvES;EQUEs RO>TErTWO HUNDvDmEVsTY DEGvES;
    EROOK RO>TErTWO HUNDvDmEVsTY DEGvES;EBISHOP RO>TErTWO HUNDvDmEVsTY DEGvES;
    EKNf RO>TErTWO HUNDvDmEVsTY DEGvES;EPAWN RO>TErTWO HUNDvDmEVsTY DEGvES;
    0WHITyC<SS KNf RO>TErzvyHUNDvrFIFTEs DEGvES;0B.CK C<SS KNf RO>TErzvyHUNDvrFIFTEs DEGvES;
    0NEUTRd C<SS KNf RO>TErzvyHUNDvrFIFTEs DEGvES;0WHITyC<SS EQUIHOPPj;0B.CK C<SS EQUIHOPPj;
    0NEUTRd C<SS EQUIHOPPj;0WHITyC<SS EQUIHOPPj RO>TErNgETY DEGvES;
    0B.CK C<SS EQUIHOPPj RO>TErNgETY DEGvES;0NEUTRd C<SS EQUIHOPPj RO>TErNgETY DEGvES;
    0WHITyC<SS KNf-QUEs;JROOK;JBISHOP;0B.CK C<SS KNf-QUEs;JROOK;JBISHOP;@1FA60;0XIkGQI vrGsjd;
    CMkDeg;CEiPHkT;CH^SE;CCHeIOT;DkNn;CSOLDIj;8B.CK Gsjd;EMkDeg;EEiPHkT;EH^SE;ECHeIOT;FkNn;
    ESOLDIj;@1FA70;0BdiTmHOES;0nE-PIECEmWIMSUIT;0BRIEFS;0SH^TS;0znGmkDd;@1FA78;0DROP OF BLOOD;
    0AD<=VyBkDAGE;0STEzOSCOPE;0X-+Y;0CRUTCH;@1FA80;0YO-YO;0KITE;0PeACHUTE;0BOOMjkG;0MAGIC WkD;
    0PgA>;0NEST&DOLLS;@1FA90;0RgGErPLkET;0CwIR;0+Z^;0AXE;0DIYA .MP;0BkJO;0MILITeY <LMET;
    0ACC^DIn;0LnG DRUM;0COg;1ePsTRYmAW;0SCvWDRIVj;0.DDj;0HOOK;0MIRR^;0WgDOW;0PLUNGj;0SEW&NEEDi;
    0KNOT;0BUCKET;0MOUSyT+P;0TOOzBRUSH;0<ADSTnE;0P.CeD;0ROCK;0MIRR^ BdL;0IDstFICAtn CeD;
    0LOW BATTjY;0wMSA;@1FAB0;0FLY;0W^M;0BEETi;0COCKROACH;0POTTErPLkT;0WOOD;0FEAzj;0LOTUS;0C^d;
    0EMPTY NEST;0NESTbEGGS;@1FAC0;0kATOMICd <eT;0LUNGS;0PEOPi HUGGgG;1vGNkT Mk;9PjSn;1jSnbCROWN;
    @1FAD0;0BLUEBjRIES;1ELL PEPPj;0OLIVE;0F.TBvAD;0>MdE;0FnDUE;0TEAPOT;0POUR&LIQUID;0BEkS;0Je;
    @1FAE0;0MELT&FACE;0SdUT&FACE;0FACEbOPs EYES?HkrOVj MOUz;APEEK&EYE;ADIAGnd MOUz;0~TErLgyFACE;
    0BIT&LIP;1UBBiS;@1FAF0;0HkDbgDEX FgGj?zUMB CROSSED;0Rfu HkD;0*u HkD;0PdM DOWN HkD;5UP HkD;
    0gDEX POgT&AT zyVIEWj;0<eT HkDS;@1FB00;0BLOCKmEXTkT-1;E2;E12;E3;E13;E23;E123;E4;E14;E24;
    E124;E34;E134;E234;E1234;E5;E15;E25;E125;E35;E235;E1235;E45;E145;E245;E1245;E345;E1345;
    E2345;E12345;E6;E16;E26;E126;E36;E136;E236;E1236;E46;E146;F246;E346;E1346;E2346;E12346;E56;
    E156;E256;E1256;E356;E1356;E2356;E12356;E456;E1456;E2456;E12456;E3456;E13456;E23456;
    0LOWj * BLOCK DIAGnd LOWj MIDDi * TO LOWj CsTv;ZDi * TO LOWj Rf;QUPPj MIDDi * TO LOWj CsTv;
    ZDi * TO LOWj Rf;W* TO LOWj CsTv;6Rf BLOCK DIAGnd UPPj MIDDi * TO UPPj CsTv",
   "ZDDi * TO UPPj Rf;RLOWj MIDDi * TO UPPj CsTv;ZDDi * TO UPPj Rf;X* TO UPPj CsTv;
    XMIDDi * TO UPPj MIDDi Rf;XCsTv TO LOWj MIDDi Rf;X* TO LOWj MIDDi Rf;XCsTv TO UPPj MIDDi Rf;
    X* TO UPPj MIDDi Rf;XCsTv TO UPPj Rf;6* BLOCK DIAGnd UPPj CsTv TO UPPj MIDDi Rf;
    W* TO UPPj MIDDi Rf;WCsTv TO LOWj MIDDi Rf;W* TO LOWj MIDDi Rf;WCsTv TO LOWj Rf;
    WMIDDi * TO LOWj MIDDi Rf;0UPPj Rf BLOCK DIAGnd LOWj MIDDi * TO LOWj CsTv;ZDDi * TO LOWj Rf;
    RUPPj MIDDi * TO LOWj CsTv;ZDDi * TO LOWj Rf;X* TO LOWj CsTv;
    6* BLOCK DIAGnd UPPj MIDDi * TO UPPj CsTv;ZDi * TO UPPj Rf;QLOWj MIDDi * TO UPPj CsTv;
    ZDi * TO UPPj Rf;W* TO UPPj CsTv;WMIDDi * TO UPPj MIDDi Rf;WCsTv TO LOWj MIDDi Rf;
    W* TO LOWj MIDDi Rf;WCsTv TO UPPj MIDDi Rf;W* TO UPPj MIDDi Rf;WCsTv TO UPPj Rf;
    6Rf BLOCK DIAGnd UPPj CsTv TO UPPj MIDDi Rf;X* TO UPPj MIDDi Rf;XCsTv TO LOWj MIDDi Rf;
    X* TO LOWj MIDDi Rf;XCsTv TO LOWj Rf;XMIDDi * TO LOWj MIDDi Rf;
    6krRf?LOWj TRIkGULe zvyQUeTjS BLOCK;0*?LOWj?Rf TRIkGULe zvyQUeTjS BLOCK;
    0UPPj?*?LOWj TRIkGULe zvyQUeTjS BLOCK;0*?UPPj?Rf TRIkGULe zvyQUeTjS BLOCK;
    5TRIkGULe nyQUeTj BLOCK;0UPPj TRIkGULe nyQUeTj BLOCK;0Rf TRIkGULe nyQUeTj BLOCK;
    0LOWj TRIkGULe nyQUeTj BLOCK;0VjtCd nyEfH BLOCK-2;Q3;Q4;Q5;Q6;Q7;0H^IZnTd nyEfH BLOCK-2;S3;
    S4;S5;S6;S7;0*?LOWj nyEfH BLOCK;9UPPj nyEfH BLOCK;0Rf?UPPj nyEfH BLOCK;ALOWj nyEfH BLOCK;
    0UPPj?LOWj nyEfH BLOCK;0H^IZnTd nyEfH BLOCK-1358;0UPPj nyQUeTj BLOCK;6zvyEfHS BLOCK;
    6FIVyEfHS BLOCK;6zvyQUeTjS BLOCK;6SEVs EfHS BLOCK;0Rf nyQUeTj BLOCK;6zvyEfHS BLOCK;
    6FIVyEfHS BLOCK;6zvyQUeTjS BLOCK;6SEVs EfHS BLOCK;0* HdF MEDIUMmwDE;0Rf HdF MEDIUMmwDE;
    0UPPj HdF MEDIUMmwDE;0LOWj HdF MEDIUMmwDE;0gVjSyMEDIUMmwDE;
    0UPPj HdF BLOCK?LOWj HdF gVjSyMEDIUMmwDE;BgVjSyMEDIUMmwDykrLOWj HdF BLOCK;@1FB94;
    0* HdF gVjSyMEDIUMmwDykrRf HdF BLOCK;0C<CKj BOerFILL;0gVjSyC<CKj BOerFILL;
    0<AVY H^IZnTd FILL;0UPPj * TO LOWj Rf FILL;6Rf TO LOWj * FILL;6krLOWj TRIkGULe HdF BLOCK;
    0*?Rf TRIkGULe HdF BLOCK;0UPPj * TRIkGULe MEDIUMmwDE;6Rf TRIkGULe MEDIUMmwDE;
    0LOWj Rf TRIkGULe MEDIUMmwDE;6* TRIkGULe MEDIUMmwDE;
    0BOX D+WgGS Lf DIAGnd UPPj CsTv TO MIDDi *;ZsTv TO MIDDi Rf;SMIDDi * TO LOWj CsTv;
    ZRf TO LOWj CsTv;SUPPj CsTv TO MIDDi * TO LOWj CsTv;ZsTv TO MIDDi Rf TO LOWj CsTv;
    SMIDDi * TO LOWj CsTv TO MIDDi Rf;Z* TO UPPj CsTv TO MIDDi Rf;
    SUPPj CsTv TO MIDDi *?MIDDi Rf TO LOWj CsTv;ZsTv TO MIDDi Rf?MIDDi * TO LOWj CsTv;
    ZsTv TO MIDDi Rf TO LOWj CsTv TO MIDDi *;ZsTv TO MIDDi * TO LOWj CsTv TO MIDDi Rf;
    SMIDDi * TO UPPj CsTv TO MIDDi Rf TO LOWj CsTv;ZRf TO UPPj CsTv TO MIDDi * TO LOWj CsTv;
    SDIAMnD;JH^IZnTdbVjtCdmTROKE;0eROW<AD-SwPErPOgTj;0gVjSyC<CK MeK;0* HdF RUNN&Mk;
    0Rf HdF RUNN&Mk;0gVjSyDOWNulbtP *u;0*ul?UPPj?LOWj nyEfH BLOCK;0Rful?UPPj?LOWj nyEfH BLOCK;
    0DOWNul?Rf nyEfH BLOCK;0UPul?Rf nyEfH BLOCK;0* HdF FOLDj;0Rf HdF FOLDj;0VOIDErGvEK CROSS;
    0Rf OPsmQUeEr~;0NEGAtVyDIAGnd CROSS;IMIDDi Rf TO LOWj CsTv;IDIAMnD;
    0WHITy<AVYmdtvbROUNDErC^NjS;0* zIRrWHITyRf POgT&gDEX;0MIDDi zIRrWHITyRf POgT&gDEX;
    0Rf zIRrWHITyRf POgT&gDEX;0NEGAtVEmQUeErQUEStn MeK;0StCK FIGUv;CbeMS +ISED;Dik&*;LRf;
    DWIz DvSS;0WHITyUP-POgT&C<VRn;@1FBF0;0SEGMsTErDIGIT ZjO;GnE;GTWO;HHvE;GFOUR;HIVE;G=X;HEVs;
    GEf;GNgE;@E0001;0LkGUAGy>G;@E0020;0>GmPACE;4EXC.MAtn MeK;4QUO>tn MeK;4NUMBjx;4DOLLex;
    4PjCsTx;4AMPjSkD;5POSTROP<;4* PeszE=S;4Rf PeszE=S;4ASTjISK;4PLUSx;4COMMA;4HYPHs-MgUS",
   "4FULLmTOP;4SOLIDUS;4DIGIT ZjO;AnE;ATWO;BHvE;AFOUR;BIVE;A=X;BEVs;AEf;ANgE;4COLn;4SEMICOLn;
    4iSS-zkx;4EQUdSx;4GvATj-zkx;4QUEStn MeK;4COMMjCId AT;4.Tg caA;PB;PC;PD;PE;PF;PG;PH;PI;PJ;PK;
    PL;PM;PN;PO;PP;PQ;PR;PS;PT;PU;PV;PW;PX;PY;PZ;5EFTmQUeyB+CKET;4vVjSEmOLIDUS;5fmQUeyB+CKET;
    4_UMFiX ACCsT;4LOW LgE;4G+VyACCsT;4.TgmMdaA;NB;NC;ND;NE;NF;NG;NH;NI;NJ;NK;NL;NM;NN;NO;NP;NQ;
    NR;NS;NT;NU;NV;NW;NX;NY;NZ;5EFT CURLY B+CKET;4VjtCd LgE;4Rf CURLY B+CKET;4tLDE;0CkCEL >G;
    @E0100;0VeIAtnmEiCT^-17;K8;K9;J20;K1;K2;K3;K4;K5;K6;K7;K8;K9;J30;K1;K2;K3;K4;K5;K6;K7;K8;K9;
    J40;K1;K2;K3;K4;K5;K6;K7;K8;K9;J50;K1;K2;K3;K4;K5;K6;K7;K8;K9;J60;K1;K2;K3;K4;K5;K6;K7;K8;
    K9;J70;K1;K2;K3;K4;K5;K6;K7;K8;K9;J80;K1;K2;K3;K4;K5;K6;K7;K8;K9;J90;K1;K2;K3;K4;K5;K6;K7;
    K8;K9;J100;L1;L2;L3;L4;L5;L6;L7;L8;L9;K10;L1;L2;L3;L4;L5;L6;L7;L8;L9;K20;L1;L2;L3;L4;L5;L6;
    L7;L8;L9;K30;L1;L2;L3;L4;L5;L6;L7;L8;L9;K40;L1;L2;L3;L4;L5;L6;L7;L8;L9;K50;L1;L2;L3;L4;L5;
    L6;L7;L8;L9;K60;L1;L2;L3;L4;L5;L6;L7;L8;L9;K70;L1;L2;L3;L4;L5;L6;L7;L8;L9;K80;L1;L2;L3;L4;
    L5;L6;L7;L8;L9;K90;L1;L2;L3;L4;L5;L6;L7;L8;L9;J200;L1;L2;L3;L4;L5;L6;L7;L8;L9;K10;L1;L2;L3;
    L4;L5;L6;L7;L8;L9;K20;L1;L2;L3;L4;L5;L6;L7;L8;L9;K30;L1;L2;L3;L4;L5;L6;L7;L8;L9;K40;L1;L2;
    L3;L4;L5;L6;L7;L8;L9;K50;L1;L2;L3;L4;L5;L6"]

/-- Further names: the code point in hexadecimal, a blank, and the name. -/
def nameAliases : String :=
  "0 NULL;0 NUL;1 START OF HEADING;1 SOH;2 START OF TEXT;2 STX;3 END OF TEXT;3 ETX;
   4 END OF TRANSMISSION;4 EOT;5 ENQUIRY;5 ENQ;6 ACKNOWLEDGE;6 ACK;7 ALERT;7 BEL;8 BACKSPACE;
   8 BS;9 CHARACTER TABULATION;9 HORIZONTAL TABULATION;9 HT;9 TAB;A LINE FEED;A NEW LINE;
   A END OF LINE;A LF;A NL;A EOL;B LINE TABULATION;B VERTICAL TABULATION;B VT;C FORM FEED;
   C FF;D CARRIAGE RETURN;D CR;E SHIFT OUT;E LOCKING-SHIFT ONE;E SO;F SHIFT IN;
   F LOCKING-SHIFT ZERO;F SI;10 DATA LINK ESCAPE;10 DLE;11 DEVICE CONTROL ONE;11 DC1;
   12 DEVICE CONTROL TWO;12 DC2;13 DEVICE CONTROL THREE;13 DC3;14 DEVICE CONTROL FOUR;14 DC4;
   15 NEGATIVE ACKNOWLEDGE;15 NAK;16 SYNCHRONOUS IDLE;16 SYN;17 END OF TRANSMISSION BLOCK;
   17 ETB;18 CANCEL;18 CAN;19 END OF MEDIUM;19 EOM;1A SUBSTITUTE;1A SUB;1B ESCAPE;1B ESC;
   1C INFORMATION SEPARATOR FOUR;1C FILE SEPARATOR;1C FS;1D INFORMATION SEPARATOR THREE;
   1D GROUP SEPARATOR;1D GS;1E INFORMATION SEPARATOR TWO;1E RECORD SEPARATOR;1E RS;
   1F INFORMATION SEPARATOR ONE;1F UNIT SEPARATOR;1F US;20 SP;7F DELETE;7F DEL;
   80 PADDING CHARACTER;80 PAD;81 HIGH OCTET PRESET;81 HOP;82 BREAK PERMITTED HERE;82 BPH;
   83 NO BREAK HERE;83 NBH;84 INDEX;84 IND;85 NEXT LINE;85 NEL;86 START OF SELECTED AREA;
   86 SSA;87 END OF SELECTED AREA;87 ESA;88 CHARACTER TABULATION SET;
   88 HORIZONTAL TABULATION SET;88 HTS;89 CHARACTER TABULATION WITH JUSTIFICATION;
   89 HORIZONTAL TABULATION WITH JUSTIFICATION;89 HTJ;8A LINE TABULATION SET;
   8A VERTICAL TABULATION SET;8A VTS;8B PARTIAL LINE FORWARD;8B PARTIAL LINE DOWN;8B PLD;
   8C PARTIAL LINE BACKWARD;8C PARTIAL LINE UP;8C PLU;8D REVERSE LINE FEED;8D REVERSE INDEX;
   8D RI;8E SINGLE SHIFT TWO;8E SINGLE-SHIFT-2;8E SS2;8F SINGLE SHIFT THREE;
   8F SINGLE-SHIFT-3;8F SS3;90 DEVICE CONTROL STRING;90 DCS;91 PRIVATE USE ONE;
   91 PRIVATE USE-1;91 PU1;92 PRIVATE USE TWO;92 PRIVATE USE-2;92 PU2;93 SET TRANSMIT STATE;
   93 STS;94 CANCEL CHARACTER;94 CCH;95 MESSAGE WAITING;95 MW;96 START OF GUARDED AREA;
   96 START OF PROTECTED AREA;96 SPA;97 END OF GUARDED AREA;97 END OF PROTECTED AREA;97 EPA;
   98 START OF STRING;98 SOS;99 SINGLE GRAPHIC CHARACTER INTRODUCER;99 SGC;
   9A SINGLE CHARACTER INTRODUCER;9A SCI;9B CONTROL SEQUENCE INTRODUCER;9B CSI;
   9C STRING TERMINATOR;9C ST;9D OPERATING SYSTEM COMMAND;9D OSC;9E PRIVACY MESSAGE;9E PM;
   9F APPLICATION PROGRAM COMMAND;9F APC;A0 NBSP;AD SHY;1A2 LATIN CAPITAL LETTER GHA;
   1A3 LATIN SMALL LETTER GHA;34F CGJ;61C ALM;709 SYRIAC SUBLINEAR COLON SKEWED LEFT;
   CDE KANNADA LETTER LLLA;E9D LAO LETTER FO FON;E9F LAO LETTER FO FAY;EA3 LAO LETTER RO;
   EA5 LAO LETTER LO;FD0 TIBETAN MARK BKA- SHOG GI MGO RGYAN;
   11EC HANGUL JONGSEONG YESIEUNG-KIYEOK;11ED HANGUL JONGSEONG YESIEUNG-SSANGKIYEOK;
   11EE HANGUL JONGSEONG SSANGYESIEUNG;11EF HANGUL JONGSEONG YESIEUNG-KHIEUKH;180B FVS1;
   180C FVS2;180D FVS3;180E MVS;180F FVS4;200B ZWSP;200C ZWNJ;200D ZWJ;200E LRM;200F RLM;
   202A LRE;202B RLE;202C PDF;202D LRO;202E RLO;202F NNBSP;205F MMSP;2060 WJ;2066 LRI;
   2067 RLI;2068 FSI;2069 PDI;2118 WEIERSTRASS ELLIPTIC FUNCTION;2448 MICR ON US SYMBOL;
   2449 MICR DASH SYMBOL;2B7A LEFTWARDS TRIANGLE-HEADED ARROW WITH DOUBLE VERTICAL STROKE;
   2B7C RIGHTWARDS TRIANGLE-HEADED ARROW WITH DOUBLE VERTICAL STROKE;
   A015 YI SYLLABLE ITERATION MARK;AA6E MYANMAR LETTER KHAMTI LLA;
   FE18 PRESENTATION FORM FOR VERTICAL RIGHT WHITE LENTICULAR BRACKET;FEFF BYTE ORDER MARK;
   FEFF BOM;FEFF ZWNBSP;122D4 CUNEIFORM SIGN NU11 TENU;
   122D5 CUNEIFORM SIGN NU11 OVER NU11 BUR OVER BUR;16E56 MEDEFAIDRIN CAPITAL LETTER H;
   16E57 MEDEFAIDRIN CAPITAL LETTER NG;16E76 MEDEFAIDRIN SMALL LETTER H;
   16E77 MEDEFAIDRIN SMALL LETTER NG;1B001 HENTAIGANA LETTER E-1;
   1D0C5 BYZANTINE MUSICAL SYMBOL FTHORA SKLIRON CHROMA VASIS"

end QueryLint.Text
